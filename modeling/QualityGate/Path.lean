import QualityGate.Text.Basic

/-!
Slash-separated paths, by their spelling alone.
-/

namespace QualityGate.Path

open Text (byte)

def separator : UInt8 := byte '/'

def isAbsolute (path : Text) : Bool := path.head? = some separator

def dropSeparators (path : Text) : Text := (path.reverse.dropWhile (· = separator)).reverse

/-- The last element of a path: `.` for the empty path, `/` for a path of separators only. -/
def base (path : Text) : Text :=
  if path.isEmpty then "."
  else
    let stripped := dropSeparators path
    if stripped.isEmpty then "/" else (stripped.reverse.takeWhile (· ≠ separator)).reverse

/-- The extension: the last dot of the last element and what follows it. -/
def extension (path : Text) : Text :=
  let element := (path.reverse.takeWhile (· ≠ separator)).reverse
  if element.contains (byte '.') then
    byte '.' :: (element.reverse.takeWhile (· ≠ byte '.')).reverse
  else []

/-- One element applied to the elements kept so far, the last one first. Above the root there is only the root; above
the start of a relative path the dots stay. -/
def cleanStep (rooted : Bool) (kept : List Text) (element : Text) : List Text :=
  if element.isEmpty ∨ element = "." then kept
  else if element = ".." then
    match kept with
    | [] => if rooted then [] else [element]
    | last :: rest => if last = ".." then element :: kept else rest
  else element :: kept

/-- The shortest spelling of a path: no empty, `.` or inner `..` elements. -/
def clean (path : Text) : Text :=
  let rooted := isAbsolute path
  let elements := ((Text.splitAtByte separator path).foldl (cleanStep rooted) []).reverse
  let joined := Text.join [separator] elements
  if rooted then separator :: joined else if joined.isEmpty then "." else joined

/-- Two parts with a separator between them, cleaned; an empty part is left out. -/
def join (first second : Text) : Text :=
  if first.isEmpty then if second.isEmpty then [] else clean second
  else if second.isEmpty then clean first
  else clean (first ++ separator :: second)

/-- All but the last element of a path, cleaned. -/
def directory (path : Text) : Text :=
  clean ((path.reverse.dropWhile (· ≠ separator)).reverse)

def absolute (workingDirectory path : Text) : Text :=
  if isAbsolute path then clean path else join workingDirectory path

end QualityGate.Path
