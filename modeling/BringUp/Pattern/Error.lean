/-!
# Faults of patterns

Why a text is no pattern. Where in the pattern the fault lies is not kept, and the words for it are
left to a `PatternError.Wording`.
-/

namespace BringUp

/-- Why a text is no pattern. -/
inductive PatternError where
  /-- Look-around is not part of the language. -/
  | lookAround
  /-- A reference to an earlier group is not part of the language. -/
  | backReference
  /-- A group is not closed. -/
  | groupUnclosed
  /-- A closing parenthesis without an opening one. -/
  | groupUnopened
  /-- The name of a group is empty, broken off or has a character that names do not have. -/
  | groupName
  /-- Two groups have the same name. -/
  | groupNameTwice
  /-- Flags that are unknown, repeated or broken off. -/
  | flags
  /-- A repetition operator with nothing to repeat. -/
  | nothingToRepeat
  /-- The count of a repetition is missing, not closed, too large or the wrong way round. -/
  | repetitionCount
  /-- An escape that is unknown or broken off. -/
  | escape
  /-- A hexadecimal escape without digits, or for no character. -/
  | hexadecimal
  /-- A set in brackets is not closed. -/
  | classUnclosed
  /-- A range whose ends are no characters or are the wrong way round. -/
  | classRange
  /-- Something in brackets that stands for no characters. -/
  | classItem
  /-- A property of characters that does not exist. -/
  | property
  /-- Something that needs the tables of character properties while they are switched off. -/
  | needsUnicode
  /-- Groups, sets or repetitions are nested too deeply. -/
  | nesting
  /-- The automaton of the pattern would be too large. -/
  | tooLarge (limit : Nat)
  deriving Repr, DecidableEq

namespace PatternError

/-- The fault in a few words. -/
def reason : PatternError → String
  | .lookAround => "look-around is not supported"
  | .backReference => "backreferences are not supported"
  | .groupUnclosed => "unclosed group"
  | .groupUnopened => "unopened group"
  | .groupName => "invalid group name"
  | .groupNameTwice => "duplicate group name"
  | .flags => "invalid flags"
  | .nothingToRepeat => "repetition operator missing expression"
  | .repetitionCount => "invalid repetition count"
  | .escape => "unrecognized escape sequence"
  | .hexadecimal => "invalid hexadecimal escape"
  | .classUnclosed => "unclosed character class"
  | .classRange => "invalid character class range"
  | .classItem => "invalid item in a character class"
  | .property => "Unicode property not found"
  | .needsUnicode => "Unicode not allowed here"
  | .nesting => "exceeds the nest limit"
  | .tooLarge limit => "larger than " ++ toString limit ++ " bytes"

/-- The words in which a fault of a pattern is told. -/
abbrev Wording := String → PatternError → String

/-- The fault is told in a few words, wherever it lies. -/
def briefly : Wording := fun _ fault => fault.reason

end PatternError

end BringUp
