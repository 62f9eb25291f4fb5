import SlideOverflow.Metadata.Node.Meaning

/-! A metadata block: the lines between two separators, read as one value that should be a table. -/
namespace SlideOverflow.Metadata

inductive Block where
  | table (t : Table)
  /-- The text is at fault; it is kept for the report. -/
  | malformed (fault : Fault) (text : List Char)
  /-- The text describes a value that is no table. -/
  | notTable
deriving Repr

/-- Reads the text of a block. A blank text and an empty document give an empty table; a value that
lies outside its type stops the reading altogether. -/
def Block.read (text : List Char) : Outcome Block :=
  if text.all Text.isBlank then .ok (.table .empty)
  else match Datum.ofText? text with
    | .ok d =>
      if d.value = .null then .ok (.table .empty)
      else match d.table? with
        | some t => .ok (.table t)
        | none => .ok .notTable
    | .error (.fault fault) => .ok (.malformed fault text)
    | .error (.defect d) => .error (.defect d)

/-- Whether a text describes a value that cannot be made, such as a day that no calendar has. Text
that is only at fault is not refused. -/
def Block.isRefused (text : List Char) : Bool :=
  !text.all Text.isBlank && match Datum.ofText? text with
    | .error (.defect _) => true
    | _ => false

/-- A block is read unless its text is refused. -/
theorem Block.exists_read_iff (text : List Char) :
    (∃ block, Block.read text = .ok block) ↔ Block.isRefused text = false := by
  unfold Block.read Block.isRefused
  split
  · next hb => simp [hb]
  · next hb =>
    cases Datum.ofText? text with
    | ok d =>
      by_cases hn : d.value = .null
      · simp [hn]
      · cases ht : d.table? <;> simp [hn, ht]
    | error stop => cases stop <;> simp [hb]

def Block.content : Block → Table
  | .table t => t
  | .malformed _ _ => .empty
  | .notTable => .empty

end SlideOverflow.Metadata
