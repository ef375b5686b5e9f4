import BpfDepot.Yaml.Parser

/-! # Documents

A document is the list of its events, up to its end or up to the fault that stops it.
A node may be named, and a reference to a name stands for the node that had it last.
Names are kept by numbers: a name gets the number of the names that are there. -/

namespace BpfDepot.Yaml

/-- One event of a document. -/
inductive Item where
  /-- Nothing at all, which is the content of an empty stream. -/
  | void
  /-- A reference to the node with a number. -/
  | alias (number : Nat)
  | scalar (tag : Option (List Char)) (text : List Char) (style : Style)
  | sequenceStart
  | sequenceEnd
  | mappingStart
  | mappingEnd
  deriving DecidableEq, Repr

/-- Events with the places where they begin. -/
abbrev Items := List (Item × Place)

/-- A document. -/
structure Document where
  /-- The events. -/
  items : Items := []
  /-- The fault that stops them. -/
  fault : Option Fault := none
  /-- For the numbers of names, the number of events before the named node. A later
  entry for the same number counts. -/
  named : List (Nat × Nat) := []

namespace Document

/-- The events from a named node on. -/
def following (d : Document) (number : Nat) : Items :=
  ((d.named.reverse.find? fun entry => entry.1 = number).map fun entry =>
    d.items.drop entry.2).getD []

/-- The names with their numbers, the latest first. -/
abbrev Names := List (List Char × Nat)

/-- Gives a name the number of the names that are there. -/
def addName (names : Names) (name : List Char) : Names :=
  (name, names.length) :: names.filter fun entry => entry.1 ≠ name

/-- Puts an event before those of a document. If the event begins a node with a name,
`named` is the number of the name and the number of events before the node. -/
def prepend (item : Item) (place : Place) (named : Option (Nat × Nat)) (d : Document) :
    Document :=
  { d with items := (item, place) :: d.items, named := named.toList ++ d.named }

/-- The next document of a stream and the events after it, unless the stream ends.
`names` are the names given so far and `count` is the number of events before. -/
def next (fault : Option Fault) (names : Names) (count : Nat) :
    List (Event × Place) → Option (Document × List (Event × Place))
  | [] => some ({ fault }, [])
  | (event, place) :: rest =>
    let go (anchor : Option (List Char)) (item : Item) :=
      let names' := anchor.elim names (addName names)
      (next fault names' (count + 1) rest).map fun (d, rest) =>
        (d.prepend item place (anchor.map fun _ => (names.length, count)), rest)
    match event with
    | .streamEnd => none
    | .documentStart => next fault names count rest
    | .documentEnd => some ({}, rest)
    | .alias name =>
      match names.find? fun entry => entry.1 = name with
      | some (_, number) => go none (.alias number)
      | none => some ({ fault := some (.unknownAnchor place) }, [])
    | .scalar anchor tag text style => go anchor (.scalar tag text style)
    | .sequenceStart anchor => go anchor .sequenceStart
    | .sequenceEnd => go none .sequenceEnd
    | .mappingStart anchor => go anchor .mappingStart
    | .mappingEnd => go none .mappingEnd

/-- The first document of a text, and whether there is another. An empty stream has
a document without content. -/
def first (text : List Char) : Document × Bool :=
  let (events, fault) := events text
  match next fault [] 0 events with
  | none => ({ items := [(.void, (events.head?.map Prod.snd).getD {})] }, false)
  | some (d, rest) => (d, (next fault [] 0 rest).isSome)

end Document

end BpfDepot.Yaml
