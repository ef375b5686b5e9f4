import BpfDepot.Proofs.Command.Steps
import BpfDepot.Proofs.Exchange.Guarded
import BpfDepot.Proofs.Settings

/-! # Where encryption is forgone

The registries that a command opens talk to a host without encryption exactly if the settings
name the host, or the command was asked to do so and the host is the registry of its reference
(`Command.scheme_of_trusting`). The client talks to the host that was read unless that is the
default registry under one of its two names. So everything under a reference is done without
encryption when the command was asked to do so (`Command.unencrypted_iff_asked`).
-/

namespace BpfDepot

open Logged
open FileTree (ok_bind)

variable {r : Registry} {text : String} {reference client : Reference} {host : String}

namespace Network

/-- A network in which nobody takes an encrypted connection. -/
def unencrypted (n : Network) : Network where
  manifest
    | .http => n.manifest .http
    | .https => fun _ _ => .unsent
  blob
    | .http => n.blob .http
    | .https => fun _ _ => .unsent
  offer
    | .http => n.offer .http
    | .https => fun _ _ _ => .unsent

end Network

namespace Registry

theorem scheme_eq_http_iff : r.scheme host = .http ↔ r.settings.isInsecure host = true := by
  unfold scheme
  split <;> simp_all

/-- All that is done under a text is done without encryption. -/
structure Unencrypted (r : Registry) (text : String) (reference client : Reference) : Prop where
  /-- What is fetched does not depend on encrypted connections. -/
  fetch_eq : ∀ n : Network,
    { r with network := n.unencrypted }.fetch text = { r with network := n }.fetch text
  /-- Nor does what comes of storing. -/
  store_eq : ∀ (n : Network) (a : Artifact), ∃ stored,
    Gives ({ r with network := n.unencrypted }.store text a) stored ∧
      Gives ({ r with network := n }.store text a) stored
  /-- If nobody takes a connection, the first request to fetch fails, and its address is not
  encrypted. -/
  fetch_first : { r with network := .unreachable }.fetch text =
    .error (.registry reference.registry (.notSent ("http://" ++ reference.registry ++ "/v2/" ++
      client.repository ++ "/" ++ ("manifests/" ++
        pathText ((client.digest <|> client.tag).getD Reference.defaultTag)))))
  /-- And so does the first request to store an artifact. -/
  store_first : ∀ a : Artifact, a.verify = .ok () →
    Gives ({ r with network := .unreachable }.store text a)
      (.error (.registry reference.registry (.notSent ("http://" ++ reference.registry ++ "/v2/" ++
        client.repository ++ "/" ++ "blobs/uploads/"))))

variable (read : Reference.parse text = .ok reference)
  (accepted : clientReference reference = .ok client) (plain : r.scheme client.registry = .http)
include read accepted plain

/-- What is done under a text is done without encryption if the client's registry is talked to
without it, and the client keeps the registry that was read. -/
theorem unencrypted_of_scheme (same : client.registry = reference.registry) :
    r.Unencrypted text reference client := by
  have parsed := parse_eq_ok_iff.mpr read
  have scheme (n : Network) : { r with network := n }.scheme client.registry = .http := plain
  refine ⟨fun n => ?fetch_eq, fun n a => ?store_eq, ?fetch_first, fun a verified => ?store_first⟩
  case fetch_eq =>
    simp only [fetch, pullArtifact, parsed, accepted, ok_bind, scheme]
    rfl
  case store_eq =>
    refine ⟨_, gives_store _ text a, ?_⟩
    have given := gives_store { r with network := n } text a
    simp only [offered, parsed, accepted, ok_bind, scheme] at given ⊢
    exact given
  case fetch_first =>
    simp only [fetch, pullArtifact, parsed, accepted, ok_bind]
    change Except.error (Error.registry _ (.notSent (r.address client (.manifest _)))) = _
    rw [address, plain, same]
    rfl
  case store_first =>
    have given := gives_store { r with network := .unreachable } text a
    simp only [offered, parsed, accepted, verified, ok_bind] at given
    change Gives _ (Except.error (Error.registry _ (.notSent (r.address client .upload)))) at given
    rw [address, plain, same] at given
    exact given

end Registry

namespace Command

open World

variable {settings trusted : Settings} {insecure : Bool} {w : World}

/-- The command was asked to talk to a host without encryption: it has the flag, and the host is
the registry of its reference. -/
def Asked (insecure : Bool) (text host : String) : Prop :=
  insecure = true ∧ ∃ reference, Reference.parse text = .ok reference ∧ host = reference.registry

theorem isInsecure_trust_iff {registry : String} :
    (settings.trust registry).isInsecure host = true ↔
      host ∈ settings.insecureRegistries ∨ host = registry := by
  rw [Settings.isInsecure_iff]
  exact Settings.mem_addRegistry

theorem trusting_true (settings : Settings) (text : String) : trusting settings text true =
    (Registry.parse text).map fun reference => settings.trust reference.registry := by
  unfold trusting
  cases Registry.parse text <;> rfl

theorem trusting_eq_error_iff : (∃ error, trusting settings text insecure = .error error) ↔
    insecure = true ∧ ∃ fault, Reference.parse text = .error fault := by
  cases insecure with
  | false => exact ⟨nofun, nofun⟩
  | true =>
      rw [trusting_true, Registry.parse_eq]
      cases Reference.parse text with
      | error fault => exact ⟨fun _ => ⟨rfl, fault, rfl⟩, fun _ => ⟨_, rfl⟩⟩
      | ok reference => exact ⟨nofun, nofun⟩

/-- **Trust.** A host is talked to without encryption exactly if the settings name it or the
command was asked to. -/
theorem scheme_of_trusting {credentials : Credentials} {network : Network}
    (given : trusting settings text insecure = .ok trusted) :
    ({ settings := trusted, credentials, network } : Registry).scheme host = .http ↔
      host ∈ settings.insecureRegistries ∨ Asked insecure text host := by
  rw [Registry.scheme_eq_http_iff]
  cases insecure with
  | false =>
      obtain rfl := Except.ok.inj given
      rw [Settings.isInsecure_iff]
      exact (or_iff_left nofun).symm
  | true =>
      rw [trusting_true, Registry.parse_eq] at given
      cases read : Reference.parse text with
      | error fault =>
          rw [read] at given
          cases given
      | ok reference =>
          rw [read] at given
          obtain rfl := Except.ok.inj given
          rw [isInsecure_trust_iff, Asked, read]
          simp

/-- Only two variables are read. -/
theorem ofVariables_read (lookup : String → Option String) :
    (Credentials.ofVariables fun name =>
      if name = Credentials.usernameVariable then lookup Credentials.usernameVariable
      else if name = Credentials.passwordVariable then lookup Credentials.passwordVariable
      else none) = .ofVariables lookup := by
  have apart : Credentials.passwordVariable ≠ Credentials.usernameVariable := by decide
  simp only [Credentials.ofVariables, apart, ↓reduceIte]

/-- Opening registries depends on the environment and the network, and changes nothing. -/
theorem runs_openRegistry (settings : Settings) (text : String) (insecure : Bool) (w : World) :
    Runs (openRegistry settings text insecure) w
      (((trusting settings text insecure).map fun trusted => {
        settings := trusted
        credentials := .ofVariables w.environment
        network := w.network }).mapError .error) w := by
  have step : Runs (operation (liftM (trusting settings text insecure))) w
      ((trusting settings text insecure).mapError .error) w := runs_operation rfl
  unfold openRegistry
  cases given : trusting settings text insecure with
  | error error =>
      rw [given] at step
      exact step.bind_error _
  | ok trusted =>
      rw [given] at step
      refine step.bind ((runs_always rfl).bind ((runs_always rfl).bind ((runs_always rfl).bind ?_)))
      rw [ofVariables_read]
      exact .pure _ w

/-- **Encryption.** Opening registries fails exactly if the flag is set and the reference cannot be
read. Otherwise a host is talked to without encryption exactly if the settings name it, or the
flag is set and the host is the registry that was read. So with the flag all that is done under
the very reference is done without encryption, from the first request on, if the client accepts
the reference and does not rename its registry. -/
theorem unencrypted_iff_asked (settings : Settings) (text : String) (insecure : Bool)
    (w : World) :
    ∃ result, Runs (openRegistry settings text insecure) w result w ∧
      ((∃ failure, result = .error failure) ↔
        insecure = true ∧ ∃ fault, Reference.parse text = .error fault) ∧
      ∀ r, result = .ok r →
        (∀ host, r.scheme host = .http ↔
          host ∈ settings.insecureRegistries ∨ Asked insecure text host) ∧
        (insecure = true → ∃ reference, Reference.parse text = .ok reference ∧
          (reference.registry ≠ Reference.defaultRegistry →
            reference.registry ≠ Client.legacyRegistry →
            ∀ client, Registry.clientReference reference = .ok client →
              r.Unencrypted text reference client)) := by
  refine ⟨_, runs_openRegistry settings text insecure w, ?_, ?_⟩
  · rw [← trusting_eq_error_iff]
    cases trusting settings text insecure with
    | error error => exact ⟨fun _ => ⟨error, rfl⟩, fun _ => ⟨_, rfl⟩⟩
    | ok trusted => exact ⟨nofun, nofun⟩
  · cases given : trusting settings text insecure with
    | error error => exact nofun
    | ok trusted =>
        rintro r ⟨⟩
        refine ⟨fun host => scheme_of_trusting given, ?_⟩
        rintro rfl
        cases read : Reference.parse text with
        | error fault =>
            obtain ⟨error, failed⟩ := trusting_eq_error_iff.mpr ⟨rfl, fault, read⟩
            rw [given] at failed
            cases failed
        | ok reference =>
            refine ⟨reference, rfl, fun _ plain client accepted => ?_⟩
            obtain ⟨-, -, -, renamed⟩ := Reference.resolve_of_clientReference read accepted
            have same : client.registry = reference.registry :=
              (congrArg Prod.fst renamed).trans ((Client.fst_rename _ _).trans (if_neg plain))
            refine Registry.unencrypted_of_scheme read accepted ?_ same
            exact (scheme_of_trusting given).mpr (Or.inr ⟨rfl, reference, read, same⟩)

-- a host is trusted as it was read, with its port and without what is around the reference
example : trusting {} " localhost:5000/probe " true =
    .ok { insecureRegistries := ["localhost:5000"] } := by decide +kernel

end Command

end BpfDepot
