import IccProfile.Proofs.Catalog.Separate
import IccProfile.Proofs.Catalog.UpToDate

/-!
# Opening a file again

A load that may repair gives bytes that further loads leave as they are (`Stable`,
`load_of_stable`). In a catalog that is only used in this way a name that leads to a file
which stands for such bytes is always answered with them (`Steady.reopen`), also when the
repair of the file was refused.

Opening several files of different names leaves each of them as it was opened
(`Steady.of_mem_openAll`), so this holds of all profiles of a listing
(`Steady.of_mem_profiles`).
-/

set_option autoImplicit false

namespace IccProfile

namespace Profile

variable {d e : Disk} {path : Path} {flags : LoadFlags} {p : Profile} {data : Bytes}

/-- The bytes of a file that further loads leave as it is: the ID is not to be repaired, or its
repair changes nothing. -/
def Stable (data : Bytes) : Prop :=
  ∃ p : Profile, p.Holds data ∧
    (KeepsId {} p ∨ (ProfileId.ofContent data).stamp data = data)

/-- Repaired bytes are stable. -/
theorem Holds.stable_repairId {q : Profile} {before : Bytes} (hq : q.Holds before)
    (hdata : q.repairId.Holds data) : Stable data := by
  obtain rfl := Option.some.inj (hdata.raw_eq.symm.trans hq.repairId.raw_eq)
  refine ⟨_, hdata, .inr ?_⟩
  rw [ProfileId.ofContent_stamp _ hq.accepted.headerSize_le, ProfileId.stamp_stamp]

/-- A load that may repair leaves a stable file. -/
theorem Loads.stable (h : Loads d path flags p e) (hrepair : flags.noRepair = false)
    (hdata : p.Holds data) : Stable data := by
  cases h with
  | kept _ hholds hkeeps =>
      refine ⟨p, hdata, .inl ?_⟩
      rcases hkeeps with hforbidden | hkeeps
      · rw [hrepair] at hforbidden
        cases hforbidden
      · exact .inr hkeeps
  | repaired _ _ _ hholds _ heq => exact hholds.stable_repairId (heq ▸ hdata)
  | refused _ _ hholds _ heq => exact hholds.stable_repairId (heq ▸ hdata)

/-- Stable bytes are the only ones that a file stands for. -/
theorem Backs.unique {refusing : Place → Prop} {place : Place} {content other : Bytes}
    (h : Backs refusing place content data) (hother : Backs refusing place content other)
    (hdata : Stable data) (hstable : Stable other) : data = other := by
  -- what is to be repaired is only stable when its repair changes nothing
  have hsame : ∀ {more : Bytes}, Unstored content more → Stable content → more = content := by
    rintro more ⟨⟨q, hq, hrepairs⟩, rfl⟩ ⟨p, hp, hkeeps⟩
    exact hkeeps.resolve_left fun hkept => hrepairs (hkept.of_holds hp hq)
  rcases h with rfl | ⟨-, hunstored⟩
  · rcases hother with rfl | ⟨-, hunstored⟩
    · rfl
    · exact (hsame hunstored hdata).symm
  · rcases hother with rfl | ⟨-, hanother⟩
    · exact hsame hunstored hstable
    · rw [hunstored.2, hanother.2]

/-- A stable file is loaded as it is. -/
theorem load_of_stable (hread : d.read path = .ok data) (h : Stable data) :
    ∃ p, (load d path {}).1 = .ok p ∧ p.Holds data := by
  obtain ⟨q, hholds, hstable⟩ := h
  have haccepted := hholds.accepted
  have hfile := holds_ofFile path haccepted
  by_cases hkeeps : KeepsId {} (ofFile path data haccepted.headerSize_le)
  · rw [load_of_keepsId hread haccepted rfl hkeeps]
    exact ⟨_, rfl, hfile⟩
  -- the repair changes nothing
  · refine load_of_unstored hread ⟨⟨_, hfile, hkeeps⟩, ?_⟩
    exact (hstable.resolve_left fun hkept => hkeeps (hkept.of_holds hholds hfile)).symm

/-- A file is loaded as the stable bytes that it stands for. -/
theorem Backs.load {refusing : Place → Prop} {place : Place} {content : Bytes}
    (h : Backs refusing place content data) (hread : d.read path = .ok content)
    (hstable : Stable data) : ∃ p, (load d path {}).1 = .ok p ∧ p.Holds data := by
  rcases h with rfl | ⟨-, hunstored⟩
  · exact load_of_stable hread hstable
  · exact load_of_unstored hread hunstored

end Profile

namespace Workspace

open Profile (Backs ComesFrom Stable)

variable {refusing : Place → Prop} {w v : Workspace} {path name own : Path} {flags : LoadFlags}
  {loaded : Loaded} {data : Bytes}

/-- All cached profiles are up to date, and stable. -/
structure Steady (refusing : Place → Prop) (w : Workspace) : Prop extends Trusted refusing w where
  stable : ∀ entry ∈ w.catalog.cache, ∀ data, entry.loaded.profile.Holds data → Stable data

namespace Steady

theorem start (hcache : w.catalog.cache = []) (htimely : w.disk.Timely)
    (hrefuses : RefusesAt refusing w.disk) : Steady refusing w := by
  refine ⟨(Used.start hcache htimely hrefuses).trusted, ?_⟩
  intro entry hentry
  rw [hcache] at hentry
  exact absurd hentry List.not_mem_nil

theorem mono {more : Place → Prop} (h : Steady refusing w)
    (hmore : ∀ place, refusing place → more place) : Steady more w :=
  ⟨h.toTrusted.mono hmore, h.stable⟩

/-- It stays so on a later disk, with some of the cached profiles. -/
theorem later (h : Steady refusing w) (hlater : w.disk.Later v.disk)
    (hrefuses : RefusesAt refusing v.disk)
    (hcache : ∀ entry ∈ v.catalog.cache, entry ∈ w.catalog.cache) : Steady refusing v where
  toTrusted := h.toTrusted.extend hlater hrefuses fun entry hentry => .inl (hcache entry hentry)
  stable := fun entry hentry => h.stable entry (hcache entry hentry)

/-- Opening a name for a repair keeps it. -/
theorem openProfile (h : Steady refusing w) (name : Path) (hrepair : flags.noRepair = false) :
    Steady refusing (w.openProfile name flags).2 where
  toTrusted := h.toTrusted.openProfile name flags
  stable := by
    rcases w.snd_openProfile name flags with heq | ⟨path, profile, disk, hprofile, heq⟩
    · rw [heq]
      exact h.stable
    · rw [heq]
      intro entry hentry data hholds
      rcases w.mem_cache_catalogAfter path flags hentry with hkept | rfl
      · exact h.stable entry hkept data hholds
      · exact (Profile.loads_of_load hprofile).stable hrepair hholds

/-- What is opened for a repair comes from the file that it names, and is stable. -/
theorem answer (h : Steady refusing w) (hopen : w.openProfile name {} = (.ok loaded, v)) :
    ∃ path own content data, w.resolve? name = some path ∧
      loaded.profile.fileName = some own ∧ own.same path = true ∧
      ComesFrom refusing v.disk own loaded.profile content data ∧ Stable data := by
  obtain ⟨path, own, content, data, hpath, hown, hsame, hfrom, hread⟩ :=
    h.toTrusted.answer rfl hopen
  have hbacks := hfrom.backs
  rw [← Disk.placeOf_eq_of_same v.disk hsame] at hbacks
  refine ⟨path, own, content, data, hpath, hown, hsame, ⟨hread, hfrom.holds, hbacks⟩, ?_⟩
  obtain ⟨found, -, hhit | ⟨profile, disk, hload, rfl, rfl⟩⟩ := openProfile_ok hopen
  · obtain ⟨-, -, entry, hentry, -, -, -, rfl⟩ := hhit
    exact h.stable entry hentry data hfrom.holds
  · exact (Profile.loads_of_load hload).stable rfl hfrom.holds

/-- A name that leads to a file which stands for stable bytes is answered with them. -/
theorem reopen {content : Bytes} (h : Steady refusing w) (hname : w.resolve? name = some path)
    (hread : w.disk.read path = .ok content)
    (hbacks : Backs refusing (w.disk.placeOf path) content data) (hstable : Stable data) :
    ∃ loaded v, w.openProfile name {} = (.ok loaded, v) ∧ loaded.profile.Holds data := by
  rw [openProfile_of_resolve? hname]
  cases hhit : w.catalog.hit? w.disk path {} with
  | some loaded =>
      obtain ⟨entry, hcached, -, rfl⟩ := Catalog.of_hit? hhit
      obtain ⟨held, hfrom⟩ := h.toTrusted.comesFrom_of_hit? rfl hread hhit
      have hheld := h.stable entry (Catalog.of_cached? hcached).1 held hfrom.holds
      obtain rfl := hbacks.unique hfrom.backs hstable hheld
      exact ⟨entry.loaded, w, if_pos rfl, hfrom.holds⟩
  | none =>
      obtain ⟨p, hp, hholds⟩ := hbacks.load hread hstable
      cases hload : Profile.load w.disk path {} with
      | mk result disk =>
          rw [hload] at hp
          obtain rfl : result = .ok p := hp
          simp only [load, hload]
          exact ⟨_, _, rfl, hholds⟩

/-- What is opened among files of different names still comes from its file when all of them were
opened, and is stable. -/
theorem of_mem_openAll {paths : List Path} (h : Steady refusing w) (hpaths : DifferentNames paths)
    (hloaded : loaded ∈ (w.openAll {} paths).1) :
    ∃ own content data, loaded.profile.fileName = some own ∧
      ComesFrom refusing (w.openAll {} paths).2.disk own loaded.profile content data ∧
      Stable data := by
  induction paths generalizing w with
  | nil => exact absurd hloaded List.not_mem_nil
  | cons first rest ih =>
      obtain ⟨⟨n, hname⟩, hnamed⟩ := List.forall_mem_cons.mp hpaths.1
      obtain ⟨hdiffers, hpairs⟩ := List.pairwise_cons.mp hpaths.2
      have hrest := @ih (w.openProfile first {}).2 (h.openProfile first rfl) ⟨hnamed, hpairs⟩
      rw [openAll_cons]
      simp only [openAll] at hloaded
      cases hopen : w.openProfile first {} with
      | mk result v =>
          rw [hopen] at hloaded hrest
          cases result with
          | error error => exact hrest hloaded
          | ok found =>
              rcases List.mem_cons.mp hloaded with rfl | hlater
              -- the files that are opened later have other names
              · obtain ⟨path, own, content, data, hpath, hown, hsame, hfrom, hstable⟩ :=
                  h.answer hopen
                have hownName : own.fileName? = some n :=
                  (Path.fileName?_eq_of_same hsame).trans
                    (SearchPaths.fileName?_of_resolve? hpath hname)
                have hother : ∀ path ∈ rest, path.IsNamed ∧ path.fileName? ≠ some n := by
                  intro path hmem
                  refine ⟨hnamed path hmem, fun heq => hdiffers path hmem ?_⟩
                  rw [hname, heq]
                have hplace := Disk.placeOf_eq_of_working
                  (openAll_eq v {} rest).2.working_eq own
                have hbacks := hfrom.backs
                rw [← hplace] at hbacks
                refine ⟨own, content, data, hown, ⟨?_, hfrom.holds, hbacks⟩, hstable⟩
                rw [(sameAt_openAll hother hownName {}).read_eq, hfrom.read_eq]
              · exact hrest hlater

theorem openAll (h : Steady refusing w) (paths : List Path) :
    Steady refusing (w.openAll {} paths).2 := by
  induction paths generalizing w with
  | nil => exact h
  | cons first rest ih =>
      rw [openAll_cons]
      exact ih (h.openProfile first rfl)

theorem files (h : Steady refusing w) : Steady refusing w.files.2 := by
  unfold Workspace.files
  split
  · exact h
  · exact h.later (Disk.later_refl _) h.refusesAt fun _ => id

theorem profiles (h : Steady refusing w) (patterns : List Profile) :
    Steady refusing (w.profiles patterns {}).2 :=
  h.files.openAll w.files.1

/-- After a listing each of its profiles comes from its file. -/
theorem of_mem_profiles {patterns : List Profile} (h : Steady refusing w)
    (htidy : Catalog.Tidy w.catalog) (hloaded : loaded ∈ (w.profiles patterns {}).1) :
    ∃ own content data, loaded.profile.fileName = some own ∧
      ComesFrom refusing (w.profiles patterns {}).2.disk own loaded.profile content data ∧
      Stable data :=
  h.files.of_mem_openAll (differentNames_files htidy) (mem_of_mem_profiles hloaded)

end Steady

end Workspace

end IccProfile
