import PagePilot.Wire.Id
/-!
# PagePilot.Wire.Navigation

The session history of a page, and how each entry came about.
-/

namespace PagePilot.Wire

/-- How a navigation was started. -/
inductive TransitionType
  | link
  | typed
  | addressBar
  | autoBookmark
  | autoSubframe
  | manualSubframe
  | generated
  | autoToplevel
  | formSubmit
  | reload
  | keyword
  | keywordGenerated
  /-- Every way that has no name here. -/
  | other
deriving Repr, DecidableEq, Inhabited

/-- The wire name of a transition. -/
def TransitionType.word : TransitionType → String
  | .link => "link"
  | .typed => "typed"
  | .addressBar => "address_bar"
  | .autoBookmark => "auto_bookmark"
  | .autoSubframe => "auto_subframe"
  | .manualSubframe => "manual_subframe"
  | .generated => "generated"
  | .autoToplevel => "auto_toplevel"
  | .formSubmit => "form_submit"
  | .reload => "reload"
  | .keyword => "keyword"
  | .keywordGenerated => "keyword_generated"
  | .other => "other"

/-- The transition with a wire name; all names that are not known are `other`. -/
def TransitionType.ofWord : String → TransitionType
  | "link" => .link
  | "typed" => .typed
  | "address_bar" => .addressBar
  | "auto_bookmark" => .autoBookmark
  | "auto_subframe" => .autoSubframe
  | "manual_subframe" => .manualSubframe
  | "generated" => .generated
  | "auto_toplevel" => .autoToplevel
  | "form_submit" => .formSubmit
  | "reload" => .reload
  | "keyword" => .keyword
  | "keyword_generated" => .keywordGenerated
  | _ => .other

/-- The wire form of a transition. -/
def TransitionType.toJson (t : TransitionType) : Json :=
  .string t.word

/-- Reads a transition. -/
def TransitionType.decode : Decoder TransitionType :=
  Decoder.variant (fun word => some (TransitionType.ofWord word)) []

/-- One entry of the session history. -/
structure NavigationEntry where
  id : Int
  url : String
  userTypedUrl : String
  title : String
  transitionType : TransitionType
deriving Repr, DecidableEq

/-- The wire form of an entry. -/
def NavigationEntry.toJson (e : NavigationEntry) : Json :=
  .ofMembers
    [("id", .int e.id), ("url", .string e.url), ("userTypedURL", .string e.userTypedUrl),
      ("title", .string e.title), ("transitionType", e.transitionType.toJson)]

/-- The fields of an entry. -/
def NavigationEntry.record : Record NavigationEntry :=
  { name := "NavigationEntry"
    fields :=
      [.required "id" Decoder.signedWord, .required "url" Decoder.text,
        .defaulted "userTypedURL" Decoder.text "", .defaulted "title" Decoder.text "",
        .defaulted "transitionType" TransitionType.decode .other]
    make := fun (id, url, userTypedUrl, title, transitionType, _) =>
      { id, url, userTypedUrl, title, transitionType } }

/-- Reads an entry. -/
def NavigationEntry.decode : Decoder NavigationEntry :=
  NavigationEntry.record.decode

/-- The session history: its entries, oldest first, and the index of the current
one, which the browser gives and nobody checks. -/
structure NavigationHistory where
  currentIndex : Int
  entries : List NavigationEntry
deriving Repr, DecidableEq

/-- The wire form of a history. -/
def NavigationHistory.toJson (h : NavigationHistory) : Json :=
  .ofMembers [("currentIndex", .int h.currentIndex),
    ("entries", .ofList NavigationEntry.toJson h.entries)]

/-- The fields of a history. -/
def NavigationHistory.record : Record NavigationHistory :=
  { name := "NavigationHistory"
    fields :=
      [.required "currentIndex" Decoder.signedWord,
        .defaulted "entries" (Decoder.list NavigationEntry.decode) []]
    make := fun (currentIndex, entries, _) => { currentIndex, entries } }

/-- Reads a history. -/
def NavigationHistory.decode : Decoder NavigationHistory :=
  NavigationHistory.record.decode

end PagePilot.Wire
