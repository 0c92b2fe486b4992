import VerbDoc.Documentation.LineRole
import VerbDoc.Documentation.Merge
import VerbDoc.Log
import VerbDoc.Text.Lines

/-!
# Reading documentation from a text

Documentation is often framed as a comment: each line is indented and starts with asterisks, and
the first and last lines hold delimiters. The lines without this decoration are read in order, with
the token of the open tag carried along. Main statements: an undecorated line has no white space at
its ends, and white space around a line does not change what is left of it.
-/
namespace VerbDoc

/-! ## Decorated lines -/

namespace Documentation

open Text

def isStar (c : Char) : Bool := c == '*'

/-- The text without the asterisks in front of it. They are decoration if white space, a slash
or nothing follows them. -/
def dropLeadingStars (t : Text) : Text :=
  match t.dropWhile isStar with
  | [] => []
  | c :: rest => if isBlank c || c == '/' then c :: rest else t

/-- The text without the asterisks at its end. They are decoration if white space or nothing
comes before them. -/
def dropTrailingStars (t : Text) : Text :=
  match t.reverse.dropWhile isStar with
  | [] => []
  | c :: rest => if isBlank c then (c :: rest).reverse else t

def undecorate (line : Text) : Text := trim (dropTrailingStars (dropLeadingStars (trim line)))

/-- The undecorated lines of a text; an absent or empty text has none. -/
def undecoratedLines : Option Text → List Text
  | none | some [] => []
  | some raw => (lines raw).map undecorate

theorem trimmed_undecorate (line : Text) : Trimmed (undecorate line) := trimmed_trim _

@[simp] theorem undecorate_trim (line : Text) : undecorate (trim line) = undecorate line := by
  simp [undecorate]

end Documentation

/-! ## Line by line -/

/-- What has been read so far, and the token of the tag that is open. -/
structure Documentation.Progress where
  documentation : Documentation
  active : Option Text
  deriving DecidableEq, Repr

namespace Marker

open Documentation

def step (m : Marker) (progress : Progress) (line : Text) : Progress :=
  match m.role line progress.active with
  | .closes => { progress with active := none }
  | .stray => progress
  | .opens key token text => ⟨addLine progress.documentation key text token, some token⟩
  | .continues key token text =>
    { progress with documentation := addLine progress.documentation key text token }

def parse (m : Marker) (raw : Option Text) : Documentation :=
  ((undecoratedLines raw).foldl m.step ⟨∅, none⟩).documentation

end Marker

namespace Documentation

/-- What is logged about documentation that was read: its keys, if there are any. -/
def parseEvents (doc : Documentation) : List Log.Event :=
  if doc.isEmpty then [] else [.tagsParsed doc.keys]

def readMarker (text : Text) : Except Fault Marker :=
  match Marker.ofText? text with
  | some m => .ok m
  | none => .error .emptyMarker

def read (markerText : Text) (raw : Option Text) : Except Fault Documentation :=
  (readMarker markerText).map fun m => m.parse raw

end Documentation
end VerbDoc
