import ThreeBit.Listing.Parser

/-! # Stored listings

Listings are kept in files. What a look at a file gives, bytes or the reason why there are none, is
a value here, so that loading a listing is a function of it. -/

namespace ThreeBit

/-- Why the text of a file cannot be had. -/
inductive ReadError where
  /-- There is no such file. -/
  | notFound
  /-- The path names a directory. -/
  | isDirectory
  /-- The bytes are not the UTF-8 form of a text. -/
  | notText
  /-- Any other reason the system gives. -/
  | other (reason : String)
  deriving DecidableEq, Repr

/-- The wording of a failure to read. -/
def ReadError.message : ReadError → String
  | notFound => "No such file or directory (os error 2)"
  | isDirectory => "Is a directory (os error 21)"
  | notText => "stream did not contain valid UTF-8"
  | other reason => reason

/-- The text kept in UTF-8. -/
def decodeText (bytes : ByteArray) : Except ReadError String :=
  match String.fromUTF8? bytes with
  | some text => .ok text
  | none => .error .notText

namespace Listing

/-- Why a file holds no listing. -/
inductive LoadError where
  /-- The text of the file cannot be had. -/
  | unreadable (path : String) (cause : ReadError)
  /-- The text is no listing. -/
  | malformed (error : Error)
  deriving DecidableEq, Repr

/-- The wording of a failure to load. -/
def LoadError.message : LoadError → String
  | unreadable path cause => "cannot read " ++ path ++ ": " ++ cause.message
  | malformed error => error.message

/-- The message of the failure behind a failure to load, where there is one. -/
def LoadError.cause? : LoadError → Option String
  | unreadable _ cause => some cause.message
  | malformed error => error.cause?

/-- The listing in the file at a path, given what a look at the file gives. -/
def load (path : String) (content : Except ReadError ByteArray) : Except LoadError Listing :=
  match content.bind decodeText with
  | .error cause => .error (.unreadable path cause)
  | .ok text =>
    match parse text with
    | .ok listing => .ok listing
    | .error error => .error (.malformed error)

end Listing

end ThreeBit
