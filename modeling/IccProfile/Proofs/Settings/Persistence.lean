import Mathlib.Logic.Function.Basic
import IccProfile.Proofs.Files.Growth
import IccProfile.Proofs.Json.Reading
import IccProfile.Proofs.Settings.Order
import IccProfile.Proofs.Text.Utf8
import IccProfile.Settings.File

/-!
# Settings that are kept in a file

Settings with ascending paths read back from their text (`ofText?_toText`), so what was written
to the file is loaded again (`load_of_save`). Settings that are changed, written and loaded again
in any order hold for each path the value that was set last, and list the paths that start with a
text in the order of their bytes (`kept_values`).
-/

set_option autoImplicit false

namespace IccProfile

namespace Settings

variable {s : Settings} {d e : Disk} {file : Path}

/-! ## The text of the file -/

/-- The document that the text of the settings is read as. -/
def document (s : Settings) : Json.Document :=
  .object (s.entries.map fun e => (Json.partsOf e.1, .string (Json.partsOf e.2)))

theorem reads_document (s : Settings) :
    Json.Layout.indented.Reads (.object (s.entries.map fun e => (e.1, .string e.2)))
      s.document := by
  refine Json.Layout.reads_object ?_
  rw [List.forall₂_map_left_iff, List.forall₂_map_right_iff, List.forall₂_same]
  exact fun e _ => ⟨rfl, Json.Layout.indented.reads_string e.2⟩

theorem strings?_document (s : Settings) : Json.strings? s.document = some s.entries := by
  have hentries : ∀ entries : List (String × String),
      Json.strings? (document ⟨entries⟩) = some entries := by
    intro entries
    induction entries with
    | nil => rfl
    | cons e rest ih =>
        rw [document, Json.strings?] at ih ⊢
        rw [List.map_cons, List.mapM_cons, ih]
        simp [Json.asString?, Json.text?_partsOf]
  exact hentries s.entries

/-- Settings read back from their text. -/
theorem ofText?_toText (h : Ascending s.entries) : ofText? s.toText = some s := by
  have hdocument : Json.Document.ofText? s.toText = some s.document := by
    rw [toText, Json.pretty, Json.renderPretty_eq]
    exact s.reads_document.ofText? 0
  rw [ofText?, hdocument]
  simp [strings?_document, ofPairs_of_ascending h]

/-- Settings that were written are loaded as they are. -/
theorem load_of_save (h : Ascending s.entries) (hsave : s.save d file = (.ok (), e)) :
    load e file = .ok s := by
  have hwritten : d.writeDeep file (Text.utf8 s.toText) = (.ok (), e) := by
    cases hdeep : d.writeDeep file (Text.utf8 s.toText) with
    | mk written f =>
        rw [save, hdeep] at hsave
        obtain ⟨hresult, rfl⟩ := Prod.mk.inj hsave
        cases written with
        | error fault => cases hresult
        | ok done => rfl
  have htext : e.readText file = .ok s.toText := by
    rw [Disk.readText, Disk.read_of_writeDeep hwritten]
    simp only [bind, Except.bind, Text.ofUtf8?_utf8]
    rfl
  rw [load, htext]
  simp only [ofText?_toText h]

/-- There are no settings as long as there is no file. -/
theorem load_of_absent (h : d.read file = .error .absent) : load d file = .ok empty := by
  have htext : d.readText file = .error .absent := by
    rw [Disk.readText, h]
    rfl
  rw [load, htext]

/-! ## Changing and loading -/

/-- What is done with settings that are kept in a file: a path gets a value or loses it, which is
written to the file, or all is loaded from the file again. -/
inductive Action
  | set (path : String) (value? : Option String)
  | load

/-- What an action makes of the values by path. -/
def Action.apply : Action → (String → Option String) → String → Option String
  | .set path value?, held => Function.update held path value?
  | .load, held => held

/-- The values by path after some actions, the latest of them last. -/
def held (actions : List Action) : String → Option String :=
  actions.foldl (fun held action => action.apply held) fun _ => none

theorem held_append (actions : List Action) (action : Action) :
    held (actions ++ [action]) = action.apply (held actions) := by
  rw [held, List.foldl_append]
  rfl

/-- The settings at work, and the disk with their file. -/
structure Kept where
  values : Settings
  disk : Disk

/-- Changes a path and writes the file. -/
def Kept.set (k : Kept) (file : Path) (path : String) (value? : Option String) :
    Except Error Unit × Kept :=
  let values := k.values.set path value?
  let (result, disk) := values.save k.disk file
  (result, ⟨values, disk⟩)

/-- An action that succeeds. -/
inductive Step (file : Path) : Action → Kept → Kept → Prop
  | set {k l : Kept} {path : String} {value? : Option String}
      (hset : k.set file path value? = (.ok (), l)) : Step file (.set path value?) k l
  | load {k : Kept} {values : Settings} (hload : Settings.load k.disk file = .ok values) :
      Step file .load k ⟨values, k.disk⟩

/-- Actions that start where there is no file. -/
inductive Run (file : Path) : List Action → Kept → Prop
  | opened {d : Disk} (habsent : d.read file = .error .absent) : Run file [] ⟨empty, d⟩
  | step {actions : List Action} {action : Action} {k l : Kept} (hrun : Run file actions k)
      (hstep : Step file action k l) : Run file (actions ++ [action]) l

variable {k l : Kept} {action : Action} {actions : List Action}

/-- The settings at work stand for the values by path, and the file for the settings. -/
structure Faithful (file : Path) (k : Kept) (values : String → Option String) : Prop where
  ascending : Ascending k.values.entries
  loads : load k.disk file = .ok k.values
  get?_eq : ∀ path, k.values.get? path = values path

theorem faithful_opened (h : d.read file = .error .absent) :
    Faithful file ⟨empty, d⟩ fun _ => none where
  ascending := List.Pairwise.nil
  loads := load_of_absent h
  get?_eq := fun _ => rfl

theorem Kept.save_of_set {path : String} {value? : Option String}
    (h : k.set file path value? = (.ok (), l)) :
    l.values = k.values.set path value? ∧ l.values.save k.disk file = (.ok (), l.disk) := by
  obtain ⟨hresult, rfl⟩ := Prod.mk.inj h
  exact ⟨rfl, Prod.ext hresult rfl⟩

/-- An action does to the settings what it does to the values by path. -/
theorem Step.faithful {values : String → Option String} (h : Step file action k l)
    (hk : Faithful file k values) : Faithful file l (action.apply values) := by
  cases h with
  | @set _ _ path value? hset =>
      obtain ⟨hvalues, hsave⟩ := Kept.save_of_set hset
      have hascending : Ascending l.values.entries := by
        rw [hvalues]
        exact ascending_set path value? hk.ascending
      refine ⟨hascending, load_of_save hascending hsave, ?_⟩
      intro key
      rw [hvalues, get?_set, hk.get?_eq, Action.apply, Function.update_apply]
  | load hload =>
      -- what is loaded is what was at work
      rw [hk.loads] at hload
      obtain rfl := Except.ok.inj hload
      exact hk

theorem Run.faithful (h : Run file actions k) : Faithful file k (held actions) := by
  induction h with
  | opened habsent => exact faithful_opened habsent
  | step _ hstep ih =>
      rw [held_append]
      exact hstep.faithful ih

/-- A change whose file is written. -/
theorem Run.set (h : Run file actions k) (path : String) (value? : Option String)
    (hwritten : (k.set file path value?).1 = .ok ()) :
    Run file (actions ++ [.set path value?]) (k.set file path value?).2 :=
  h.step (.set (Prod.ext hwritten rfl))

/-- The settings can be loaded again at any time, which changes nothing. -/
theorem Run.load (h : Run file actions k) : Run file (actions ++ [.load]) k :=
  h.step (.load h.faithful.loads)

/-! ## What is found -/

theorem isSome_get?_iff (s : Settings) (path : String) :
    (s.get? path).isSome = true ↔ path ∈ s.entries.map (·.1) := by
  rw [get?, List.lookup_isSome_iff, List.mem_map]
  constructor
  · rintro ⟨e, he, hkey⟩
    exact ⟨e, he, (beq_iff_eq.mp hkey).symm⟩
  · rintro ⟨e, he, hkey⟩
    exact ⟨e, he, beq_iff_eq.mpr hkey.symm⟩

theorem mem_keys_iff (h : Ascending s.entries) {start path : String} :
    path ∈ s.keys start ↔ (s.get? path).isSome = true ∧ start.toList <+: path.toList := by
  rw [keys_eq_filter h, List.mem_filter, isSome_get?_iff, startsWith_iff]

theorem pairwise_keys (h : Ascending s.entries) (start : String) :
    (s.keys start).Pairwise fun p q => Text.utf8 p < Text.utf8 q := by
  rw [keys_eq_filter h]
  exact (List.Pairwise.filter _ h).imp Text.utf8_lt

/-- Whatever was done before, the settings can be loaded as they are, each path has the value that
was set last, and the listed paths are those with a value that start with the text, each once and
in the order of their bytes. -/
theorem kept_values (h : Run file actions k) :
    load k.disk file = .ok k.values ∧
      (∀ path, k.values.get? path = held actions path) ∧
      ∀ start, (k.values.keys start).Pairwise (fun p q => Text.utf8 p < Text.utf8 q) ∧
        ∀ path, path ∈ k.values.keys start ↔
          (held actions path).isSome = true ∧ start.toList <+: path.toList := by
  obtain ⟨hascending, hload, hget⟩ := h.faithful
  refine ⟨hload, hget, ?_⟩
  intro start
  refine ⟨pairwise_keys hascending start, ?_⟩
  intro path
  rw [mem_keys_iff hascending, hget]

/-- A disk with nothing on it. -/
def blankDisk : Disk := { entries := [], working := [], clock := 0 }

def notesFile : Path := ⟨"/n/s"⟩

/-- Settings of three paths, one of which another one starts with. -/
def longNotes : Kept :=
  (((Kept.set ⟨empty, blankDisk⟩ notesFile "a/b" (some "x")).2.set notesFile "b"
    (some "")).2.set notesFile "a" (some "é\"")).2

/-- The settings without the path that stands alone. -/
def notes : Kept := (longNotes.set notesFile "b" none).2

def notesActions : List Action :=
  [.set "a/b" (some "x"), .set "b" (some ""), .set "a" (some "é\""), .load, .set "b" none]

theorem run_notes : Run notesFile notesActions notes := by
  have hopened : Run notesFile [] ⟨empty, blankDisk⟩ := .opened (by decide +kernel)
  have hfirst := hopened.set "a/b" (some "x") (by decide +kernel)
  have hsecond := hfirst.set "b" (some "") (by decide +kernel)
  have hthird := hsecond.set "a" (some "é\"") (by decide +kernel)
  exact hthird.load.set "b" none (by decide +kernel)

theorem kept_values_notes :
    Run notesFile notesActions notes ∧ load notes.disk notesFile = .ok notes.values ∧
      notes.values.get? "a" = some "é\"" ∧ notes.values.get? "b" = none ∧
      "a/b" ∈ notes.values.keys "a" ∧ notes.values.keys "" = ["a", "a/b"] := by
  obtain ⟨hload, hget, hkeys⟩ := kept_values run_notes
  refine ⟨run_notes, hload, ?_, ?_, ?_, ?_⟩
  · rw [hget]
    decide
  · rw [hget]
    decide
  · exact ((hkeys "a").2 "a/b").mpr ⟨by decide, by decide⟩
  · decide +kernel

end Settings

end IccProfile
