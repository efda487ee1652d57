import QualityGate.CodePoint.Bounds
import QualityGate.CodePoint.Casing
import QualityGate.CodePoint.Category
import QualityGate.CodePoint.Script
import QualityGate.Text.Basic

/-!
Sets of characters as a pattern writes them: ranges, tables, unions, complements and closures under case. Membership
follows the way the set was written.
-/

namespace QualityGate.Pattern

inductive CharSet where
  | none
  | range (lo hi : Nat)
  | table (bounds : List Nat)
  | union (a b : CharSet)
  | complement (a : CharSet)
  | folded (a : CharSet)
  deriving DecidableEq, Repr

namespace CharSet

def contains : CharSet → Nat → Bool
  | none, _ => false
  | range lo hi, c => lo ≤ c && c ≤ hi
  | table bounds, c => CodePoint.within bounds c
  | union a b, c => a.contains c || b.contains c
  | complement a, c => !a.contains c
  | folded a, c => (CodePoint.foldOrbit c).any fun other => a.contains other

def single (c : Nat) : CharSet := range c c

def all : CharSet := complement none

/-- Neighbours put together two by two, after those in `done`, which come latest first. -/
def unitePairs (done : List CharSet) : List CharSet → List CharSet
  | a :: b :: rest => unitePairs (union a b :: done) rest
  | [a] => (a :: done).reverse
  | [] => done.reverse

def unionsIn : Nat → List CharSet → CharSet
  | _, [] => none
  | _, [a] => a
  | 0, a :: rest => rest.foldl union a
  | rounds + 1, sets => unionsIn rounds (unitePairs [] sets)

def unions (sets : List CharSet) : CharSet := unionsIn sets.length sets

/-- The sets that a union was built from one after the other, before those in `done`. -/
def leaves (done : List CharSet) : CharSet → List CharSet
  | union a b => leaves (a :: done) b
  | a => a :: done

/-- The closure under case when it is wanted, then the complement when it is wanted. -/
def adapted (fold negated : Bool) (a : CharSet) : CharSet :=
  let closed := if fold then folded a else a
  if negated then complement closed else closed

def bounds : CharSet → List Nat
  | none => []
  | range lo hi => [lo, hi]
  | table bounds => bounds
  | union a b => CodePoint.unite a.bounds b.bounds
  | complement a => CodePoint.invert a.bounds
  | folded a => CodePoint.foldClosure a.bounds

/-! ### Named sets -/

def digits : CharSet := range 0x30 0x39

def wordChars : CharSet := table [0x30, 0x39, 0x41, 0x5A, 0x5F, 0x5F, 0x61, 0x7A]

def whiteSpace : CharSet := table [0x09, 0x0A, 0x0C, 0x0D, 0x20, 0x20]

/-- The sets that a backslash and a letter name; an uppercase letter names the complement. -/
def ofEscape? : Char → Option (CharSet × Bool)
  | 'd' => some (digits, false)
  | 'D' => some (digits, true)
  | 's' => some (whiteSpace, false)
  | 'S' => some (whiteSpace, true)
  | 'w' => some (wordChars, false)
  | 'W' => some (wordChars, true)
  | _ => Option.none

/-- The sets that `[:name:]` names inside a bracket. -/
def bracketNames : List (String × CharSet) := [
  ("alnum", table [0x30, 0x39, 0x41, 0x5A, 0x61, 0x7A]),
  ("alpha", table [0x41, 0x5A, 0x61, 0x7A]),
  ("ascii", range 0x00 0x7F),
  ("blank", table [0x09, 0x09, 0x20, 0x20]),
  ("cntrl", table [0x00, 0x1F, 0x7F, 0x7F]),
  ("digit", digits),
  ("graph", range 0x21 0x7E),
  ("lower", range 0x61 0x7A),
  ("print", range 0x20 0x7E),
  ("punct", table [0x21, 0x2F, 0x3A, 0x40, 0x5B, 0x60, 0x7B, 0x7E]),
  ("space", table [0x09, 0x0D, 0x20, 0x20]),
  ("upper", range 0x41 0x5A),
  ("word", wordChars),
  ("xdigit", table [0x30, 0x39, 0x41, 0x46, 0x61, 0x66])]

/-- The general categories by their short names. A one-letter category is the union of its parts. -/
def categories : List (String × CharSet) :=
  let lu := table CodePoint.uppercaseLetter
  let ll := table CodePoint.lowercaseLetter
  let lt := table CodePoint.titlecaseLetter
  let mn := table CodePoint.nonspacingMark
  let mc := table CodePoint.spacingMark
  let me := table CodePoint.enclosingMark
  let pc := table CodePoint.connectorPunctuation
  let pd := table CodePoint.dashPunctuation
  let ps := table CodePoint.openPunctuation
  let pe := table CodePoint.closePunctuation
  let pi := table CodePoint.initialQuote
  let pf := table CodePoint.finalQuote
  let po := table CodePoint.otherPunctuation
  let sm := table CodePoint.mathSymbol
  let sc := table CodePoint.currencySymbol
  let sk := table CodePoint.modifierSymbol
  let so := table CodePoint.otherSymbol
  let zs := table CodePoint.spaceSeparator
  let zl := table CodePoint.lineSeparator
  let zp := table CodePoint.paragraphSeparator
  let cc := table CodePoint.control
  let cf := table CodePoint.format
  let cs := table CodePoint.surrogate
  let co := table CodePoint.privateUse
  let cn := complement (unions [table CodePoint.visible, zs, zl, zp, cc, cf, cs, co])
  [("L", table CodePoint.letter), ("Lu", lu), ("Ll", ll), ("Lt", lt), ("Lm", table CodePoint.modifierLetter),
    ("Lo", table CodePoint.otherLetter), ("LC", unions [lu, ll, lt]),
    ("M", unions [mn, mc, me]), ("Mn", mn), ("Mc", mc), ("Me", me),
    ("N", table CodePoint.number), ("Nd", table CodePoint.decimalDigit), ("Nl", table CodePoint.letterNumber),
    ("No", table CodePoint.otherNumber),
    ("P", unions [pc, pd, ps, pe, pi, pf, po]), ("Pc", pc), ("Pd", pd), ("Ps", ps), ("Pe", pe), ("Pi", pi),
    ("Pf", pf), ("Po", po),
    ("S", unions [sm, sc, sk, so]), ("Sm", sm), ("Sc", sc), ("Sk", sk), ("So", so),
    ("Z", unions [zs, zl, zp]), ("Zs", zs), ("Zl", zl), ("Zp", zp),
    ("C", unions [cc, cf, cs, co, cn]), ("Cc", cc), ("Cf", cf), ("Cs", cs), ("Co", co), ("Cn", cn),
    ("Any", all), ("ASCII", range 0x00 0x7F), ("Assigned", complement cn)]

def categoryAliases : List (String × String) := [
  ("Cased_Letter", "LC"), ("Close_Punctuation", "Pe"), ("Combining_Mark", "M"), ("Connector_Punctuation", "Pc"),
  ("Control", "Cc"), ("Currency_Symbol", "Sc"), ("Dash_Punctuation", "Pd"), ("Decimal_Number", "Nd"),
  ("Enclosing_Mark", "Me"), ("Final_Punctuation", "Pf"), ("Format", "Cf"), ("Initial_Punctuation", "Pi"),
  ("Letter", "L"), ("Letter_Number", "Nl"), ("Line_Separator", "Zl"), ("Lowercase_Letter", "Ll"), ("Mark", "M"),
  ("Math_Symbol", "Sm"), ("Modifier_Letter", "Lm"), ("Modifier_Symbol", "Sk"), ("Nonspacing_Mark", "Mn"),
  ("Number", "N"), ("Open_Punctuation", "Ps"), ("Other", "C"), ("Other_Letter", "Lo"), ("Other_Number", "No"),
  ("Other_Punctuation", "Po"), ("Other_Symbol", "So"), ("Paragraph_Separator", "Zp"), ("Private_Use", "Co"),
  ("Punctuation", "P"), ("Separator", "Z"), ("Space_Separator", "Zs"), ("Spacing_Mark", "Mc"), ("Surrogate", "Cs"),
  ("Symbol", "S"), ("Titlecase_Letter", "Lt"), ("Unassigned", "Cn"), ("Uppercase_Letter", "Lu"), ("cntrl", "Cc"),
  ("digit", "Nd"), ("punct", "P")]

/-- A property name without letter case, spaces, hyphens and underscores. -/
def propertyKey (name : Text) : Text :=
  (name.filter fun b => b ≠ Text.byte '_' ∧ b ≠ Text.byte '-' ∧ b ≠ Text.byte ' ').map fun b =>
    if 0x41 ≤ b ∧ b ≤ 0x5A then b + 0x20 else b

structure Property where
  key : Text
  set : CharSet
  folded : Thunk CharSet

def unfoldedCategories : List String := ["LC"]

/-- A property by its name; `short` is the short name of its category. -/
def Property.of (name short : String) (set : CharSet) : Property :=
  ⟨propertyKey (Text.ofString name), set,
    Thunk.mk fun _ =>
      if unfoldedCategories.contains short then set else table (CodePoint.foldClosure set.bounds)⟩

/-- Every property: the categories, the scripts, and the categories by their long names. -/
def properties : List Property :=
  categories.map (fun (name, set) => .of name name set) ++
    CodePoint.scripts.map (fun (name, bounds) => .of name name (table bounds)) ++
    categoryAliases.filterMap fun (long, short) =>
      (categories.find? (·.1 = short)).map fun (_, set) => .of long short set

/-- The set that a property name stands for, where case matters or is ignored. -/
def ofProperty? (fold : Bool) (name : Text) : Option CharSet :=
  let key := propertyKey name
  (properties.find? (·.key = key)).map fun property => if fold then property.folded.get else property.set

end CharSet

end QualityGate.Pattern
