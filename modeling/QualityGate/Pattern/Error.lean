import QualityGate.Text.Basic

/-!
Why a pattern is refused. Each refusal quotes the part of the pattern it is about.
-/

namespace QualityGate.Pattern

inductive Fault where
  | charRange
  | escape
  | namedCapture
  | perlSyntax
  | nestedRepeat
  | repeatCount
  | utf8
  | missingBracket
  | missingParen
  | missingRepeatArgument
  | trailingBackslash
  | unexpectedParen
  | nestingDepth
  | tooLarge
  deriving DecidableEq, Repr

def Fault.text : Fault → String
  | charRange => "invalid character class range"
  | escape => "invalid escape sequence"
  | namedCapture => "invalid named capture"
  | perlSyntax => "invalid or unsupported Perl syntax"
  | nestedRepeat => "invalid nested repetition operator"
  | repeatCount => "invalid repeat count"
  | utf8 => "invalid UTF-8"
  | missingBracket => "missing closing ]"
  | missingParen => "missing closing )"
  | missingRepeatArgument => "missing argument to repetition operator"
  | trailingBackslash => "trailing backslash at end of expression"
  | unexpectedParen => "unexpected )"
  | nestingDepth => "expression nests too deeply"
  | tooLarge => "expression too large"

structure Error where
  fault : Fault
  fragment : Text
  deriving DecidableEq, Repr

def Error.message (error : Error) : Text :=
  "error parsing regexp: " ++ Text.ofString error.fault.text ++ ": " ++
    Text.backquote :: error.fragment ++ [Text.backquote]

end QualityGate.Pattern
