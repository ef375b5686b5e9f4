import BpfDepot.PackageStore
import BpfDepot.Report
import BpfDepot.Table
import BpfDepot.Text.Replace

/-! # Listing stored packages

An entry of a store is shown as a row of texts. Rows are shown in a table, or each in
a line of its own after a format, in which names of fields in double braces stand for
the texts of the row. -/

namespace BpfDepot

/-- The texts that are shown of a stored package. -/
structure Row where
  reference : String
  repository : String
  tag : String
  digest : String
  size : String
  created : String
  info : String
  deriving DecidableEq, Repr

namespace Row

/-- What is shown in place of a tag. -/
def noTag : String := "<none>"

/-- The texts for an entry. A reference that cannot be read is shown whole. -/
def ofStored (now : Instant) (entry : StoredPackage) : Row :=
  let (repository, tag) := match Reference.parse entry.reference with
    | .ok r => (r.registry ++ "/" ++ r.repository, r.tag.getD noTag)
    | .error _ => (entry.reference, noTag)
  { reference := entry.reference
    repository, tag
    digest := Digest.short entry.digest
    size := Report.size entry.size
    created := Report.ago now entry.created
    info := entry.info }

/-- The text that stands for a field in a format. -/
def placeholder (name : String) : String := "\x7b\x7b." ++ name ++ "\x7d\x7d"

/-- The fields that a format may name, in the order in which they are replaced. -/
def fields (row : Row) : List (String × String) :=
  [("Repository", row.repository), ("Tag", row.tag), ("Digest", row.digest), ("Size", row.size),
    ("Created", row.created), ("Info", row.info), ("Reference", row.reference)]

/-- The line of a row after a format. The fields are replaced one after the other, so
that a field can bring in the name of a later one. -/
def line (row : Row) (format : String) : String :=
  row.fields.foldl (fun text field => Text.replace (placeholder field.1) field.2 text) format

/-- The headings of the table. -/
def headings : List String := ["REPOSITORY", "TAG", "DIGEST", "SIZE", "CREATED", "INFO"]

/-- The cells of a row in the table. -/
def cells (row : Row) : List String :=
  [row.repository, row.tag, row.digest, row.size, row.created, row.info]

/-- The table of rows. -/
def table (rows : List Row) : Table := { headings, rows := rows.map cells }

end Row

namespace StoredPackage

/-- What is known of an entry, as a document for a reader. -/
def details (entry : StoredPackage) : Json.Value := .object [
  ("CreatedAt", .text entry.created.toOffsetText),
  ("Digest", .text entry.digest),
  ("Info", .text entry.info),
  ("Path", .text entry.path),
  ("Reference", .text entry.reference),
  ("Size", .number entry.size)]

end StoredPackage

end BpfDepot
