import Lindenmayer.Proofs.Filing
import Lindenmayer.Proofs.Renderings
import Lindenmayer.Service.Routes

/-!
Drawings that a service saves. A request to save either changes no file or writes one, beside the others in the
directory of the service, under the name and in the format that were asked for, and that one is served by its name
afterwards (`saved_or_refused`). Only what is answered depends on more: a name with surrogates that stand alone is
written and then not told, so that a request fails that has replaced a drawing (`unanswered_replaces`).
-/
namespace Lindenmayer.Saving
open Outcomes Paths Filing Renderings

/-! ### Texts without surrogates -/

/-- A text that can be encoded. -/
def Whole (s : Text) : Prop := ∀ c ∈ s, Text.isSurrogate c = false

theorem whole_append {s t : Text} : Whole (s ++ t) ↔ Whole s ∧ Whole t := List.forall_mem_append

theorem whole_flatMap {α : Type} {f : α → Text} {items : List α} (whole : ∀ item ∈ items, Whole (f item)) :
    Whole (items.flatMap f) := by
  intro c member
  obtain ⟨item, listed, member⟩ := List.mem_flatMap.mp member
  exact whole item listed c member

theorem whole_ofChar (c : Char) : Text.isSurrogate (Text.ofChar c) = false := by
  have valid : (Text.ofChar c).val.isValidChar := c.valid
  have split : (Text.ofChar c).val < 0xD800 ∨ 0xDFFF < (Text.ofChar c).val := valid.imp_right And.left
  simp only [Text.isSurrogate, Bool.and_eq_false_iff, decide_eq_false_iff_not]
  omega

theorem whole_ofString (s : String) : Whole (Text.ofString s) := by
  intro c member
  obtain ⟨char, _, rfl⟩ := List.mem_map.mp member
  exact whole_ofChar char

theorem whole_encodes {s : Text} (whole : Whole s) : Text.badRun? Text.isSurrogate s = none := by
  have before : (s.takeWhile fun c => !Text.isSurrogate c) = s := List.takeWhile_eq_self_iff.mpr fun c member => by
    simp [whole c member]
  rw [Text.badRun?]
  simp [before]

section
variable {K : Type} [Scalar K]

theorem resolve_whole {r : Recorder K} {found : Array (Step K)} {primitives : List (Primitive K)} {steps : Array (Step K)}
    (colour : Whole r.colour) (before : ∀ s ∈ found, Whole s.colour) (resolved : r.resolve found primitives = .ok steps) :
    ∀ s ∈ steps, Whole s.colour := by
  induction primitives generalizing r found with
  | nil =>
    cases resolved
    exact before
  | cons p rest ih =>
    rw [Recorder.resolve] at resolved
    cases followed : r.follow p with
    | error failure =>
      rw [followed] at resolved
      cases resolved
    | ok next =>
      rw [followed] at resolved
      refine ih ?_ (fun s member => ?_) resolved
      · cases p with
        | setPenColour hue saturation brightness opacity =>
          obtain ⟨text, named, same⟩ := bind_ok.mp followed
          obtain ⟨c, _, named⟩ := bind_ok.mp named
          cases named
          cases same
          intro d member
          obtain ⟨char, _, rfl⟩ := List.mem_map.mp member
          exact whole_ofChar char
        | moveTo | lineTo | setLineWidth | penUp | penDown | circle | rectangle =>
          cases followed
          exact colour
      · rcases Array.mem_append.mp member with early | late
        · exact before s early
        · obtain ⟨shape, _, rfl⟩ := Option.map_eq_some_iff.mp (Option.mem_toArray.mp late)
          exact colour

theorem steps_whole {primitives : List (Primitive K)} {steps : List (Step K)} (recorded : Recorder.steps primitives = .ok steps) :
    ∀ s ∈ steps, Whole s.colour := by
  obtain ⟨found, resolved, same⟩ := bind_ok.mp recorded
  cases same
  intro s member
  exact resolve_whole (whole_ofString "#ffffff") (fun s none_ => absurd none_ (by simp)) resolved s (Array.mem_toList_iff.mp member)

theorem tag_whole {tag : Tag} (whole : ∀ pair ∈ tag.attributes, Whole pair.2) : Whole tag.text := by
  refine whole_append.mpr ⟨whole_append.mpr ⟨whole_ofString _, whole_flatMap fun pair member => ?_⟩, whole_ofString _⟩
  exact whole_append.mpr ⟨whole_append.mpr ⟨whole_ofString _, whole pair member⟩, whole_ofString _⟩

theorem tagOfStep_whole {f : Fit K} {s : Step K} (colour : Whole s.colour) : Whole (tagOfStep f s).text := by
  refine tag_whole ?_
  rw [tagOfStep]
  cases f.shape s.shape with
  | line | circle | rectangle => simp [tagOf, colour, written, whole_ofString]

theorem backgroundLine_whole {frame : Frame} {name : Text} (whole : Whole name) : Whole (Svg.backgroundLine frame name) := by
  refine whole_flatMap fun piece member => ?_
  cases piece with
  | plain s => exact whole_ofString s
  | given s =>
    have same : s = name := by simpa using member
    exact same ▸ whole

theorem document_whole {frame : Frame} {background : Text} {tags : List Tag} (ground : Whole background)
    (whole : ∀ tag ∈ tags, Whole tag.text) : Whole (document frame (some background) tags) := by
  refine whole_flatMap fun line member => whole_append.mpr ⟨?_, fun c last => ?_⟩
  · rcases List.mem_append.mp member with member | last
    · rcases List.mem_append.mp member with member | member
      · rcases List.mem_append.mp member with head | painted
        · simp only [Svg.head, List.mem_cons, List.not_mem_nil, or_false] at head
          rcases head with rfl | rfl
          · exact whole_ofString _
          · exact whole_ofString _
        · dsimp only at painted
          split at painted
          · cases List.mem_singleton.mp painted
            exact backgroundLine_whole ground
          · cases painted
      · obtain ⟨tag, listed, rfl⟩ := List.mem_map.mp member
        exact whole tag listed
    · cases List.mem_singleton.mp last
      exact whole_ofString _
  · cases List.mem_singleton.mp last
    exact whole_ofChar _

/-! ### Images -/

/-- The format of an image. -/
def formatOf : Image K → Format
  | .png _ => .png
  | .svg _ => .svg

theorem drawn_image {o : DrawOptions K} {format : Format} {trace : Trace K} {drawn : Drawn K} {background : Text}
    (ground : o.background = some background) (whole : Whole background) (drew : o.drawn format trace = .ok drawn) :
    formatOf drawn.image = format ∧ drawn.image.checkEncoding = .ok () := by
  obtain ⟨steps, recorded, drew⟩ := bind_ok.mp drew
  obtain ⟨image, imaged, drew⟩ := bind_ok.mp drew
  cases drew
  cases format with
  | png =>
    obtain ⟨picture, _, imaged⟩ := bind_ok.mp imaged
    cases imaged
    exact ⟨rfl, rfl⟩
  | svg =>
    obtain ⟨text, wrote, imaged⟩ := bind_ok.mp imaged
    cases imaged
    obtain ⟨f, _, rfl⟩ := ofSteps_document wrote
    refine ⟨rfl, ?_⟩
    have encodes : Whole (document o.frame o.background (steps.map (tagOfStep f))) := by
      rw [ground]
      refine document_whole whole fun tag member => ?_
      obtain ⟨s, listed, rfl⟩ := List.mem_map.mp member
      exact tagOfStep_whole (steps_whole recorded s listed)
    simp only [Image.checkEncoding, whole_encodes encodes]

/-- The usual options of a drawing without a file, in a format. -/
def unfiled (trace : TraceOptions K) (format : Format) : DrawOptions K :=
  { DrawOptions.usual trace with fileName := none, format := some (Text.ofString format.name) }

theorem ofText_name (format : Format) : Format.ofText (Text.ofString format.name) = .ok format := by
  cases format <;> rfl

/-- A drawing that is made for a file is the drawing in the format of the file's name. -/
theorem draw_unfiled {s : Derivation} {trace : TraceOptions K} {path : Text} {format : Format}
    (named : Format.ofFileName path = .ok format) :
    (s.draw { DrawOptions.usual trace with fileName := some path }).2 = (s.draw (unfiled trace format)).2 := by
  have chosen : ({ DrawOptions.usual trace with fileName := some path } : DrawOptions K).chosenFormat = .ok format := named
  have same : (unfiled trace format).chosenFormat = .ok format := ofText_name format
  rw [Derivation.draw, Derivation.draw, chosen, same]
  rfl

theorem unfiled_image {s : Derivation} {trace : TraceOptions K} {format : Format} {drawn : Drawn K}
    (drew : (s.draw (unfiled trace format)).2 = .ok drawn) :
    formatOf drawn.image = format ∧ drawn.image.checkEncoding = .ok () := by
  have same : (unfiled trace format).chosenFormat = .ok format := ofText_name format
  rw [Derivation.draw, same] at drew
  obtain ⟨trace, _, drew⟩ := bind_ok.mp drew
  exact drawn_image rfl (whole_ofString _) drew

end

/-! ### The name of a file -/

/-- The name that a payload asks for: the usual one if none is given. -/
inductive Asks (payload : Value) : Text → Prop where
  | usual : (∀ given, payload.field? "filename" = some given → given.truthy = false) → Asks payload (Text.ofString "lsystem.png")
  | given {name : Text} : payload.field? "filename" = some (.text name) → name ≠ [] → Asks payload name

theorem savedName_asked {payload : Value} {name : Text} (named : Service.savedName payload = .ok name) :
    Asks payload name ∧ Single name := by
  have usual : Single (Text.ofString "lsystem.png") := baseName_single.mp rfl
  rw [Service.savedName] at named
  split at named
  · rename_i absent
    cases named
    refine ⟨.usual fun given found => ?_, usual⟩
    rw [absent] at found
    cases found
  · rename_i value found
    split at named
    · rename_i falsy
      cases named
      refine ⟨.usual fun given other => ?_, usual⟩
      rw [found] at other
      cases other
      simpa using falsy
    · rename_i truthy
      split at named
      · rename_i text
        split at named
        · rename_i single
          cases named
          refine ⟨.given found fun empty => truthy ?_, baseName_single.mp single⟩
          rw [empty]
          rfl
        · cases named
      · cases named

/-- A name has a format if its extension, behind something that is not only points, is the format's name in any
    case of letters. -/
def Named (name : Text) (format : Format) : Prop :=
  ∃ stem extension, name = stem ++ point :: extension ∧ (∃ c ∈ stem, c ≠ point) ∧
    List.Forall₂ Spells extension (Text.ofString format.name)

theorem name_plain (format : Format) : ∀ l ∈ Text.ofString format.name, Plain l := by
  have letters : ∀ c ∈ format.name.toList, 97 ≤ c.toNat ∧ c.toNat ≤ 122 ∧ c.toNat ≠ 105 ∧ c.toNat ≠ 107 := by
    cases format with
    | png | svg => simp [Format.name]
  intro l member
  obtain ⟨c, listed, rfl⟩ := List.mem_map.mp member
  exact letters c listed

theorem ofFileName_named {directory name : Text} {format : Format} (single : Single name)
    (chosen : Format.ofFileName (Path.join directory name) = .ok format) : Named name format := by
  have lowered : Text.lower (Path.extension (Path.join directory name)) = Text.ofString format.name := by
    rw [Format.ofFileName, Format.ofText] at chosen
    split at chosen
    · rename_i found
      cases chosen
      have same := List.find?_some found
      simpa [Text.isString] using same
    · cases chosen
  have spelled := lower_letters (s := Path.extension (Path.join directory name)) (lowered ▸ name_plain format)
  rw [lowered] at spelled
  have extended : Path.extension (Path.join directory name) ≠ [] := by
    intro empty
    rw [empty] at lowered
    cases format <;> cases lowered
  obtain ⟨stem, split, other⟩ := extension_split extended
  rw [baseName_join directory single] at split
  exact ⟨stem, _, split, other, spelled⟩

/-- A name with a format is none of the parts that do not lead into a directory. -/
theorem named_apart {name : Text} {format : Format} (named : Named name format) :
    name ≠ [] ∧ ∀ place, enter place name = place ++ [name] := by
  obtain ⟨stem, extension, split, -, spelled⟩ := named
  have three : extension.length = 3 := by
    rw [spelled.length_eq]
    cases format <;> rfl
  have long : 2 < name.length := by
    rw [split, List.length_append, List.length_cons]
    omega
  have other {part : Text} (short : part.length ≤ 2) : (name == part) = false := by
    refine beq_eq_false_iff_ne.mpr ?_
    rintro rfl
    omega
  have some_ : name ≠ [] := by
    rintro rfl
    cases long
  refine ⟨some_, fun place => ?_⟩
  have here : Path.isHere name = false := by
    rw [Path.isHere, List.isEmpty_eq_false_iff.mpr some_, Text.isString, other (by decide)]
    rfl
  have above : Path.isAbove name = false := other (by decide)
  rw [enter, here, above]
  rfl

/-! ### Main statements -/

/-- The place of a file of a service. -/
def placeOf (s : Service) (name : Text) : List Text := Path.normalize s.files.here s.settings.outputDir ++ [name]

/-- A request that is refused leaves the files as they were. -/
structure Refused (s after : Service) (response : Response) : Prop where
  answer : ∃ failure, response = .ofFailure failure
  files : after.files.files = s.files.files
  others : after = { s with files := after.files }

/-- A request that writes a drawing into the file with a name. -/
structure Saved (s : Service) (payload : Value) (after : Service) (response : Response) (name : Text) (format : Format)
    (drawn : Drawn Float) : Prop where
  asked : Asks payload name
  /-- The file is in the directory of the service itself. -/
  single : Single name
  named : Named name format
  /-- What is written is the drawing of the system that the payload comes to. -/
  drew : ∃ found params, Payload.resolve s.settings payload = .ok (found, params) ∧
    (found.draw (unfiled (params.options none) format)).2 = .ok drawn
  image : formatOf drawn.image = format
  directory : after.files.hasDirectory (Path.normalize s.files.here s.settings.outputDir) = true
  /-- Only the file in that place is changed. -/
  files : ∀ place, after.files.fileAt? place =
    if FileTree.kept place = FileTree.kept (placeOf s name) then some drawn.image else s.files.fileAt? place
  served : after.file name = { status := 200, cache := some "no-store", content := .image drawn.image }
  others : after = { s with files := after.files }
  answer : response = .granted (.record [("file", .text name), ("commands", .int drawn.commands)])
  /-- The answer can be given just if the name can be encoded. -/
  status : response.status = if Text.hasSurrogate name then 500 else 200

theorem granted_status (name : Text) (commands : Nat) :
    (Response.granted (.record [("file", .text name), ("commands", .int commands)])).status =
      if Text.hasSurrogate name then 500 else 200 := by
  have file : Text.hasSurrogate (Text.ofString "file") = false := rfl
  have count : Text.hasSurrogate (Text.ofString "commands") = false := rfl
  rw [Response.granted, Response.json]
  cases lone : Text.hasSurrogate name with
  | true => simp [Value.record, Value.encodable, Value.encodableFields, lone, Response.bare]
  | false => simp [Value.record, Value.encodable, Value.encodableFields, lone, file, count]

theorem draw_chosen {found : Derivation} {o : DrawOptions Float} {drawn : Drawn Float} (drew : (found.draw o).2 = .ok drawn) :
    ∃ format, o.chosenFormat = .ok format := by
  rw [Derivation.draw] at drew
  cases chosen : o.chosenFormat with
  | ok format => exact ⟨format, rfl⟩
  | error failure =>
    rw [chosen] at drew
    cases drew

/-- A drawing whose image can be encoded is written as it is. -/
theorem drawFile_write {found : Derivation} {o : DrawOptions Float} (files : FileTree (Image Float)) {path : Text}
    {drawn : Drawn Float}
    (named : o.fileName = some path) (drew : (found.draw o).2 = .ok drawn) (encodes : drawn.image.checkEncoding = .ok ()) :
    (found.drawFile o files).2 = match files.write path drawn.image with
      | .ok written => (written, .ok drawn)
      | .error (failure, left) => (left, .error failure) := by
  rw [Derivation.drawFile]
  dsimp only
  rw [drew, named]
  simp only [Image.write, encodes]
  cases files.write path drawn.image with
  | ok | error => rfl

theorem drawFile_failed {found : Derivation} {o : DrawOptions Float} (files : FileTree (Image Float)) {failure : Failure}
    (failed : (found.draw o).2 = .error failure) : (found.drawFile o files).2 = (files, .error failure) := by
  rw [Derivation.drawFile]
  dsimp only
  rw [failed]

/-- A request to save is refused and leaves all files as they were, or it draws the system in the format of the name
    that is asked for, into the file of that name in the directory of the service, and serves it from there. It
    changes no other file; and it is answered with the name unless the name cannot be encoded. -/
theorem saved_or_refused (s : Service) (payload : Value) :
    Refused s (s.save payload).1 (s.save payload).2 ∨
      ∃ name format drawn, Saved s payload (s.save payload).1 (s.save payload).2 name format drawn := by
  rw [Service.save]
  dsimp only
  generalize request_eq : (do
    let name ← Service.savedName payload
    return (name, ← Payload.resolve s.settings payload)) = request
  cases request with
  | error failure => exact .inl ⟨⟨failure, rfl⟩, rfl, rfl⟩
  | ok asked =>
  obtain ⟨name, found, params⟩ := asked
  obtain ⟨_, savedName, request_eq⟩ := bind_ok.mp request_eq
  obtain ⟨_, resolved, request_eq⟩ := bind_ok.mp request_eq
  cases request_eq
  obtain ⟨asks, single⟩ := savedName_asked savedName
  dsimp only
  generalize options : { DrawOptions.usual (params.options none) with fileName := some (s.pathOf name) } = o
  have filed : o.fileName = some (s.pathOf name) := options ▸ rfl
  generalize outcome_eq : found.drawFile o s.files = outcome
  obtain ⟨left, outcome⟩ := outcome
  -- Nothing is written before the drawing is made, and the image of one that is made can be encoded.
  cases drew : (found.draw o).2 with
  | error failure =>
    have failed := drawFile_failed s.files drew
    rw [outcome_eq] at failed
    cases failed
    exact .inl ⟨⟨failure, rfl⟩, rfl, rfl⟩
  | ok drawn =>
    obtain ⟨format, chosen⟩ := draw_chosen drew
    rw [← options] at chosen
    have named := ofFileName_named single chosen
    obtain ⟨some_, entered⟩ := named_apart named
    have same : (found.draw (unfiled (params.options none) format)).2 = .ok drawn := by
      rw [← draw_unfiled chosen, options, drew]
    obtain ⟨image, encodes⟩ := unfiled_image same
    have written := drawFile_write s.files filed drew encodes
    rw [outcome_eq] at written
    cases wrote : s.files.write (s.pathOf name) drawn.image with
    | error failed =>
      obtain ⟨failure, left⟩ := failed
      rw [wrote] at written
      cases written
      exact .inl ⟨⟨failure, rfl⟩, (write_unfiled wrote).2, rfl⟩
    | ok tree =>
      rw [wrote] at written
      cases written
      have place : Path.normalize s.files.here (s.pathOf name) = placeOf s name := by
        rw [Service.pathOf, normalize_join _ _ single some_, entered]
        rfl
      have result : Filed s.files (s.pathOf name) (Path.normalize s.files.here (s.pathOf name)) drawn.image tree :=
        write_filed (withoutEnd_join single some_) wrote
      rw [place] at result
      refine .inr ⟨name, format, drawn, {
        asked := asks, single, named, image
        drew := ⟨found, params, resolved, same⟩
        directory := ?_
        files := result.files
        served := ?_
        others := rfl
        answer := rfl
        status := granted_status name drawn.commands }⟩
      · have above := result.directory
        rw [place, placeOf, List.dropLast_concat] at above
        exact above
      · rw [Service.file, baseName_single.mpr single]
        have there : tree.find (Service.pathOf { s with files := tree } name) = .file drawn.image := result.found
        rw [there]

/-- A service with an empty text in one file, whose name is an accented letter and an extension. -/
def holding : Service where
  settings := {}
  files := {
    here := []
    directories := [[], [Text.ofString "static"]]
    files := [([Text.ofString "static", .ofNat 0xE9 :: Text.ofString ".svg"], .svg [])] }
  capture := { every := 1, label := none, frames := #[], offered := 0, finished := false }

/-- A request to save under a name of the two bytes that encode the accented letter, each given by itself. -/
def strayRequest : Value := .record [("rules", .object []), ("seed", .string "X"), ("iterations", .int 0),
  ("filename", .text (.ofNat 0xDCC3 :: .ofNat 0xDCA9 :: Text.ofString ".svg"))]

/-- A request to save that fails has replaced what was in the one file that there is. -/
theorem unanswered_replaces :
    ¬ ∀ (s : Service) (payload : Value), (s.save payload).2.status ≠ 200 → (s.save payload).1.files.files = s.files.files := by
  intro claimed
  let blank (entry : List Text × Image Float) : Bool :=
    match entry.2 with
    | .svg text => text.isEmpty
    | .png _ => false
  have outcome : ((holding.save strayRequest).2.status, (holding.save strayRequest).1.files.files.map blank) = (500, [false]) := by
    decide +kernel
  obtain ⟨status, replaced⟩ := Prod.mk.inj outcome
  have same := claimed holding strayRequest (status ▸ by decide)
  rw [same] at replaced
  cases replaced

end Lindenmayer.Saving
