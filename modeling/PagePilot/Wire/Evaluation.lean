import PagePilot.Wire.Record
/-!
# PagePilot.Wire.Evaluation

What comes back when an expression is evaluated in the page: the value, or the
exception that was thrown.
-/

namespace PagePilot.Wire

/-- A value of the page's script. -/
structure RemoteObject where
  kind : String
  subtype : Option String
  value : Option Json
  description : Option String
deriving Repr

/-- The wire form of a value. -/
def RemoteObject.toJson (o : RemoteObject) : Json :=
  .ofMembers <|
    [("type", .string o.kind)]
      ++ Json.member? "subtype" .string o.subtype
      ++ Json.member? "value" id o.value
      ++ Json.member? "description" .string o.description

/-- The fields of a value. -/
def RemoteObject.record : Record RemoteObject :=
  { name := "RemoteObject"
    fields :=
      [.required "type" Decoder.text, .omittable "subtype" Decoder.text,
        .omittable "value" Decoder.json, .omittable "description" Decoder.text]
    make := fun (kind, subtype, value, description, _) => { kind, subtype, value, description } }

/-- Reads a value. -/
def RemoteObject.decode : Decoder RemoteObject :=
  RemoteObject.record.decode

/-- An exception that an evaluation threw. -/
structure ExceptionDetails where
  text : String
  lineNumber : Int
  columnNumber : Int
  exception : Option RemoteObject
deriving Repr

/-- What the exception says: the description of the thrown value, or else the
general text. -/
def ExceptionDetails.message (e : ExceptionDetails) : String :=
  (e.exception.bind (·.description)).getD e.text

/-- The wire form of an exception. -/
def ExceptionDetails.toJson (e : ExceptionDetails) : Json :=
  .ofMembers <|
    [("text", .string e.text), ("lineNumber", .int e.lineNumber),
      ("columnNumber", .int e.columnNumber)]
      ++ Json.member? "exception" RemoteObject.toJson e.exception

/-- The fields of an exception. -/
def ExceptionDetails.record : Record ExceptionDetails :=
  { name := "ExceptionDetails"
    fields :=
      [.required "text" Decoder.text, .defaulted "lineNumber" Decoder.signedWord 0,
        .defaulted "columnNumber" Decoder.signedWord 0,
        .omittable "exception" RemoteObject.decode]
    make := fun (text, lineNumber, columnNumber, exception, _) =>
      { text, lineNumber, columnNumber, exception } }

/-- Reads an exception. -/
def ExceptionDetails.decode : Decoder ExceptionDetails :=
  ExceptionDetails.record.decode

end PagePilot.Wire
