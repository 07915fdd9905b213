/-! What can be wrong with a pattern, and with a text that is read by one. -/

namespace DatePattern

/-- A reason why a pattern has no meaning. -/
inductive PatternError where
  /-- A run of a letter that stands for nothing. -/
  | illegalComponent (component : String)
  /-- A quote without its counterpart. -/
  | unterminatedQuote
  /-- An offset of a form that does not exist. -/
  | invalidIsoWidth
  /-- More digits of the second than there are. -/
  | invalidFractionWidth (width : Nat)
  /-- A locale without customary patterns. -/
  | noStylePattern (locale : String)
  /-- Display names that no matcher can be built from. -/
  | matcher (what : String) (message : String)
deriving DecidableEq, Repr

/-- The wording of a reason. -/
def PatternError.message : PatternError → String
  | .illegalComponent component => "Illegal pattern component: " ++ component
  | .unterminatedQuote => "Unterminated quote"
  | .invalidIsoWidth => "invalid number of X"
  | .invalidFractionWidth width =>
    "invalid number of n: " ++ toString width ++ "; fraction of second supports 1 to 9 digits"
  | .noStylePattern locale => "No date time pattern for locale: " ++ locale
  | .matcher what message => "cannot build a matcher for " ++ what ++ ": " ++ message

end DatePattern
