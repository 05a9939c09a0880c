import PolyglotPages.Text.Blank
import PolyglotPages.Text.Bytes

/-! Recognising markers one character at a time. A marker is `m__` followed by a name; it belongs to
the tag that is open where it stands, and its text goes right after the `>` that closes this tag. A
scan is a machine of three states; `>` brings it back to the start from every state, so no tag
leaves a trace in the next. -/
namespace PolyglotPages.Marker

def opener : List Char := ['m', '_', '_']

structure Occurrence where
  /-- The byte offset just past the `>` that closes the tag of the marker. -/
  position : Nat
  name : String
deriving DecidableEq, Repr, Inhabited

inductive Scan where
  /-- No marker yet; the last `matched` characters could begin one. -/
  | seeking (matched : Nat)
  | naming (name : String)
  | closing (name : String)
deriving DecidableEq, Repr

namespace Scan

def start : Scan := .seeking 0

instance : Inhabited Scan := ⟨start⟩

def endsName (c : Char) : Bool :=
  c == '"' || c == '\'' || c == '<' || c == '>' || Text.isBlank c

theorem endsName_iff {c : Char} :
    endsName c = true ↔ c = '"' ∨ c = '\'' ∨ c = '<' ∨ c = '>' ∨ Text.isBlank c = true := by
  simp [endsName, or_assoc]

@[simp] theorem endsName_close : endsName '>' = true := endsName_iff.mpr (by simp)

theorem endsName_of_isBlank {c : Char} (blank : Text.isBlank c = true) : endsName c = true :=
  endsName_iff.mpr (by simp [blank])

/-- The state after `c` when `matched` characters of the opener stand before it. A character that
breaks a match can still be the first of the next one. -/
def seek (matched : Nat) (c : Char) : Scan :=
  if opener[matched]? = some c then
    if matched + 1 = opener.length then .naming "" else .seeking (matched + 1)
  else .seeking (if c = 'm' then 1 else 0)

def step (offset : Nat) (c : Char) : Scan → Scan × Option Occurrence
  | .seeking matched => (seek matched c, none)
  | .naming name =>
    if c = '>' then (start, some ⟨offset + 1, name⟩)
    else if endsName c then (.closing name, none)
    else (.naming (name.push c), none)
  | .closing name =>
    if c = '>' then (start, some ⟨offset + 1, name⟩) else (.closing name, none)

def isInside : Scan → Bool
  | .seeking _ => false
  | _ => true

def run (s : Scan) (offset : Nat) : List Char → List Occurrence × Scan
  | [] => ([], s)
  | c :: cs =>
    let (s', found) := s.step offset c
    let (more, last) := s'.run (offset + c.utf8Size) cs
    (found.toList ++ more, last)

theorem step_close (s : Scan) (offset : Nat) : (s.step offset '>').1 = start := by
  cases s with
  | seeking matched =>
    have : seek matched '>' = start := by
      match matched with
      | 0 | 1 | 2 => decide
      | n + 3 => simp [seek, opener, start]
    simp [step, this]
  | naming name => simp [step]
  | closing name => simp [step]

theorem run_append (s : Scan) (offset : Nat) (a b : List Char) :
    s.run offset (a ++ b) =
      (let (found, s') := s.run offset a
       let (more, last) := s'.run (offset + Text.byteLength a) b
       (found ++ more, last)) := by
  induction a generalizing s offset with
  | nil => simp [run, Text.byteLength]
  | cons c cs ih => simp [run, ih, Text.byteLength, Nat.add_assoc]

end Scan
end PolyglotPages.Marker
