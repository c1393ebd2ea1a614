import CodeReview.Text.Numeral
set_option autoImplicit false

/-!
Texts that name nothing of the kind they were given for, each with the text itself.
-/
namespace CodeReview

inductive InputError where
  | unknownOption (token : String)
  | invalidOptionMask (value : String)
  | undefinedOptionBits (bits : Nat)
  | invalidObjectId (value : String)
  | invalidUsername (name : String)
  | unknownAuthType (value : String)
  deriving DecidableEq, Repr

def InputError.message : InputError → String
  | .unknownOption token => "\"" ++ token ++ "\" is not a valid value for \"-o\""
  | .invalidOptionMask value =>
    "invalid option flags: \"" ++ value ++ "\" is not a hexadecimal integer"
  | .undefinedOptionBits bits =>
    "unknown option flag bits: 0x" ++ String.ofList (Text.Numeral.hexadecimal bits)
  | .invalidObjectId value => "invalid object id: " ++ value
  | .invalidUsername name => "invalid username '" ++ name ++ "'"
  | .unknownAuthType value => "unknown auth type '" ++ value ++ "'"

end CodeReview
