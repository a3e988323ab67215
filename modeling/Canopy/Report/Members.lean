import Canopy.Report

namespace Canopy.Report

/-- A report together with what it states of its subject apart from the details. -/
structure Stated where
  report : Report
  attributes : Dict Json := []

/-- The members that every report may have. -/
def commonMembers : List String := ["message", "error_code", "details", "correlation_id"]

def ownMembers : Kind → List String
  | .unsupported => ["language", "available_languages"]
  | .parse => ["language", "parse_details"]
  | .configuration => ["language", "abi_version", "min_version", "max_version"]
  | _ => []

/-- What has to be given: a language where the report is about one, else a message, for which
grammar work has a text of its own. -/
def requiredMember? : Kind → Option String
  | .general => some "message"
  | .processing => some "message"
  | .grammar => none
  | _ => some "language"

def textMember? (members : Dict Json) (name : String) : Option String :=
  match members.get? name with
  | some (.str text) => some text
  | _ => none

/-- A member that is there and is no null. -/
def valueMember? (members : Dict Json) (name : String) : Option Json :=
  match members.get? name with
  | some .null => none
  | found => found

def textsOf : Option Json → List String
  | some (.arr items) => items.filterMap fun
    | .str text => some text
    | _ => none
  | _ => []

/-- Details to write into; a null cannot be written into. -/
def writableDetails? (members : Dict Json) : Option (Dict Json) :=
  match members.get? "details" with
  | none => some []
  | some (.obj details) => some details
  | some _ => none

def remarks (members details : Dict Json) (cause : Option String) : Remarks where
  message := textMember? members "message"
  code := textMember? members "error_code"
  details := details
  correlation := textMember? members "correlation_id"
  cause := cause

/-- The report of a kind with the given members. There is none if a member is unknown or a
required one is missing. -/
def ofMembers? (kind : Kind) (members : Dict Json) (cause : Option String) : Option Stated :=
  let allowed := commonMembers ++ ownMembers kind
  let language := (textMember? members "language").getD ""
  if !(members.keys.all allowed.contains) then none
  else if !((requiredMember? kind).all members.contains) then none
  else
    match kind with
    | .unsupported => do
      let details ← writableDetails? members
      let available := textsOf (members.get? "available_languages")
      some ⟨unsupported language available (remarks members details cause),
        [("language", .str language), ("available_languages", Json.texts available)]⟩
    | .parse => do
      let details ← writableDetails? members
      let text := textMember? members "parse_details"
      some ⟨parse language text (remarks members details cause),
        [("language", .str language), ("parse_details", Json.ofOption .str text)]⟩
    | .configuration => do
      let details ← writableDetails? members
      let version := valueMember? members "abi_version"
      let least := valueMember? members "min_version"
      let greatest := valueMember? members "max_version"
      some ⟨configuration language version least greatest (remarks members details cause),
        [("language", .str language), ("abi_version", version.getD .null),
          ("min_version", least.getD .null), ("max_version", greatest.getD .null)]⟩
    | kind =>
      let details := (writableDetails? members).getD []
      some ⟨make kind grammarMessage details (remarks members details cause), []⟩

/-- Whether reports of a kind write their subject into the details they are given. -/
def writesDetails : Kind → Bool
  | .unsupported => true
  | .parse => true
  | .configuration => true
  | _ => false

/-- The report as an object, with `made` for a correlation that was not given. -/
def membersWith (made : String) (r : Report) : Dict Json :=
  Dict.insert r.members "correlation_id" (.str (r.correlation.getD made))

end Canopy.Report
