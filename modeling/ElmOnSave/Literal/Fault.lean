import ElmOnSave.Decimal.Limit
import ElmOnSave.Text.Basic

/-!
# What can be wrong with a literal

A text is no literal for a reason: a token in it is malformed, the tokens form no expression, or a
part of a string cannot be read.  `Complaint` lists the reasons and `Complaint.message` words them.
An expression that is well formed may still have no value; those reasons are `ValueFault`s.
-/

namespace ElmOnSave.Literal

/-- The kinds of numbers a text can spell. -/
inductive Radix where
  | decimal
  | hexadecimal
  | octal
  | binary
  | imaginary
deriving Repr, DecidableEq, Inhabited

/-- The word for a kind of number. -/
def Radix.word : Radix → String
  | decimal => "decimal"
  | hexadecimal => "hexadecimal"
  | octal => "octal"
  | binary => "binary"
  | imaginary => "imaginary"

/-- Why a token is malformed. -/
inductive TokenFault where
  | unterminatedString (line : Nat)
  | unterminatedLongString (line : Nat)
  /-- A character that stands in no token. -/
  | strangeCharacter (c : Char)
  | malformedNumber (radix : Radix)
  | strangeDigit (digit : Char) (radix : Radix)
  | zerosInFront
  | tooManyBrackets
  | unmatchedBracket (bracket : Char)
  /-- A bracket closes another kind of bracket, which was opened on the given line if that is not
  the same line. -/
  | mismatchedBracket (bracket opening : Char) (line : Option Nat)
  | unclosedBracket (opening : Char)
  | textAfterBackslash
  | unexpectedEnd
  | nullCharacter
  | unknownIndentation
  | mixedIndentation
  | tooDeepIndentation
deriving Repr, DecidableEq, Inhabited

/-- A code point as it is cited. -/
def codePointText (c : Char) : String :=
  let digits := (Text.hexPadded 6 c.toNat).map Char.toUpper
  "U+" ++ String.ofList ((digits.take 2).dropWhile (· == '0') ++ digits.drop 2)

/-- The wording of a token fault. -/
def TokenFault.message : TokenFault → String
  | unterminatedString n => "unterminated string literal (detected at line " ++ toString n ++ ")"
  | unterminatedLongString n =>
    "unterminated triple-quoted string literal (detected at line " ++ toString n ++ ")"
  | strangeCharacter c =>
    if Text.isPrintable c then
      "invalid character '" ++ c.toString ++ "' (" ++ codePointText c ++ ")"
    else "invalid non-printable character " ++ codePointText c
  | malformedNumber r => "invalid " ++ r.word ++ " literal"
  | strangeDigit d r => "invalid digit '" ++ d.toString ++ "' in " ++ r.word ++ " literal"
  | zerosInFront =>
    "leading zeros in decimal integer literals are not permitted; " ++
      "use an 0o prefix for octal integers"
  | tooManyBrackets => "too many nested parentheses"
  | unmatchedBracket c => "unmatched '" ++ c.toString ++ "'"
  | mismatchedBracket c o line =>
    "closing parenthesis '" ++ c.toString ++ "' does not match opening parenthesis '" ++
      o.toString ++ "'" ++ (line.map fun n => " on line " ++ toString n).getD ""
  | unclosedBracket c => "'" ++ c.toString ++ "' was never closed"
  | textAfterBackslash => "unexpected character after line continuation character"
  | unexpectedEnd => "unexpected EOF while parsing"
  | nullCharacter => "source code string cannot contain null bytes"
  | unknownIndentation => "unindent does not match any outer indentation level"
  | mixedIndentation => "inconsistent use of tabs and spaces in indentation"
  | tooDeepIndentation => "too many levels of indentation"

/-- Why a string cannot be read. -/
inductive StringFault where
  | foreignOctet
  | mixedOctets
  /-- An escape that stands between two octets of the string is malformed. -/
  | escape (start stop : Nat) (reason : String)
  | octetEscape (position : Nat)
  | loneBrace
  | emptyField
  | fieldRequired (before : Char)
  | backslashInField
  | commentInField
  | openStringInField
  | unmatchedInField (bracket : Char)
  | mismatchedInField (bracket opening : Char)
  | tooManyBracketsInField
  | fieldsTooDeep
  | unclosedField
  | unknownConversion
deriving Repr, DecidableEq, Inhabited

/-- The wording of a string fault. -/
def StringFault.message : StringFault → String
  | foreignOctet => "bytes can only contain ASCII literal characters"
  | mixedOctets => "cannot mix bytes and nonbytes literals"
  | escape start stop reason =>
    "(unicode error) 'unicodeescape' codec can't decode bytes in position " ++ toString start ++
      "-" ++ toString stop ++ ": " ++ reason
  | octetEscape p => "(value error) invalid \\x escape at position " ++ toString p
  | loneBrace => "f-string: single '\x7d' is not allowed"
  | emptyField => "f-string: empty expression not allowed"
  | fieldRequired c => "f-string: expression required before '" ++ c.toString ++ "'"
  | backslashInField => "f-string expression part cannot include a backslash"
  | commentInField => "f-string expression part cannot include '#'"
  | openStringInField => "f-string: unterminated string"
  | unmatchedInField c => "f-string: unmatched '" ++ c.toString ++ "'"
  | mismatchedInField c o =>
    "f-string: closing parenthesis '" ++ c.toString ++ "' does not match opening parenthesis '" ++
      o.toString ++ "'"
  | tooManyBracketsInField => "f-string: too many nested parenthesis"
  | fieldsTooDeep => "f-string: expressions nested too deeply"
  | unclosedField => "f-string: expecting '\x7d'"
  | unknownConversion => "f-string: invalid conversion character: expected 's', 'r', or 'a'"

/-- Why tokens form no expression. -/
inductive GrammarFault where
  | invalid
  | indented
  | unindented
  | commaMissing
  | assignmentMeant
  | elseMissing
  | parenthesesMissing (name : String)
  | assigned (what : String)
  | assignedHere (what : String)
  | namedBy (what : String)
  | argumentAssigned
  | starredHere
  | doubleStarredHere
  | strangeStar
  | unpackedAfterUnpacked
  | positionalAfterUnpacked
  | positionalAfterKeyword
  | bareGenerator
  | unpackedComprehension
  | bareTarget
  | unpackedTableComprehension
  | colonMissing
  | starredEntry
  | entryMissing
  | defaultMissing
  | parameterAfterDefault
  | parenthesizedParameters
  | slashFirst
  | slashTwice
  | slashAfterStar
  | commaBetweenSlashAndStar
  | bareStar
  | defaultOfStarred
  | starTwice
  | defaultOfDoubleStarred
  | parameterAfterDoubleStarred
deriving Repr, DecidableEq, Inhabited

/-- The wording of a grammar fault. -/
def GrammarFault.message : GrammarFault → String
  | invalid => "invalid syntax"
  | indented => "unexpected indent"
  | unindented => "unexpected unindent"
  | commaMissing => "invalid syntax. Perhaps you forgot a comma?"
  | assignmentMeant => "invalid syntax. Maybe you meant '==' or ':=' instead of '='?"
  | elseMissing => "expected 'else' after 'if' expression"
  | parenthesesMissing name =>
    "Missing parentheses in call to '" ++ name ++ "'. Did you mean " ++ name ++ "(...)?"
  | assigned what => "cannot assign to " ++ what
  | assignedHere what =>
    "cannot assign to " ++ what ++ " here. Maybe you meant '==' instead of '='?"
  | namedBy what => "cannot use assignment expressions with " ++ what
  | argumentAssigned => "expression cannot contain assignment, perhaps you meant \"==\"?"
  | starredHere => "cannot use starred expression here"
  | doubleStarredHere => "cannot use double starred expression here"
  | strangeStar => "Invalid star expression"
  | unpackedAfterUnpacked => "iterable argument unpacking follows keyword argument unpacking"
  | positionalAfterUnpacked => "positional argument follows keyword argument unpacking"
  | positionalAfterKeyword => "positional argument follows keyword argument"
  | bareGenerator => "Generator expression must be parenthesized"
  | unpackedComprehension => "iterable unpacking cannot be used in comprehension"
  | bareTarget => "did you forget parentheses around the comprehension target?"
  | unpackedTableComprehension => "dict unpacking cannot be used in dict comprehension"
  | colonMissing => "':' expected after dictionary key"
  | starredEntry => "cannot use a starred expression in a dictionary value"
  | entryMissing => "expression expected after dictionary key and ':'"
  | defaultMissing => "expected default value expression"
  | parameterAfterDefault => "non-default argument follows default argument"
  | parenthesizedParameters => "Lambda expression parameters cannot be parenthesized"
  | slashFirst => "at least one argument must precede /"
  | slashTwice => "/ may appear only once"
  | slashAfterStar => "/ must be ahead of *"
  | commaBetweenSlashAndStar => "expected comma between / and *"
  | bareStar => "named arguments must follow bare *"
  | defaultOfStarred => "var-positional argument cannot have default value"
  | starTwice => "* argument may appear only once"
  | defaultOfDoubleStarred => "var-keyword argument cannot have default value"
  | parameterAfterDoubleStarred => "arguments cannot follow var-keyword argument"

/-- Why a text is no literal. -/
inductive Complaint where
  | token (cause : TokenFault)
  | string (cause : StringFault)
  | grammar (cause : GrammarFault)
  /-- An integer has more digits than are read. -/
  | longInteger (digits : Nat)
  /-- A field of a formatted string is at fault. -/
  | field (cause : Complaint)
deriving Repr, DecidableEq, Inhabited

/-- The wording of a complaint. -/
def Complaint.message : Complaint → String
  | token c => c.message
  | string c => c.message
  | grammar c => c.message
  | longInteger n =>
    Decimal.limitMessage n ++ " - Consider hexadecimal for huge integer literals " ++
      "to avoid decimal conversion limits."
  | field c => "f-string: " ++ c.message

/-- Why an expression has no value. -/
inductive ValueFault where
  /-- A value of the given kind cannot be a key or an element. -/
  | unhashable (kind : String)
  /-- An integer is beyond the range of numbers with a fraction. -/
  | integerTooLarge
  /-- The expression is more than a literal; a table that spreads another one names no place. -/
  | notLiteral (place : Option Nat)
deriving Repr, DecidableEq, Inhabited

/-- The wording of a value fault. -/
def ValueFault.message : ValueFault → String
  | unhashable kind => "unhashable type: '" ++ kind ++ "'"
  | integerTooLarge => "int too large to convert to float"
  | notLiteral none => "malformed node or string: None"
  | notLiteral (some line) => "malformed node or string on line " ++ toString line

end ElmOnSave.Literal
