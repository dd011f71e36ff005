import Crosswalk.Files
import Crosswalk.Proofs.Sequence

/-!
# Files written and read

What was written behind a path is read from there, and can be written over.  Directories stay where
they are: writing makes directories, and puts a file where none of them stands.

* `Files.Holds` — a file with certain bytes stands behind a path.
* **`Files.holds_of_write`** — it does so once the bytes were written; `Files.homes_write` —
  and the home directories stay.
* `Files.IsWritable` — something can be written behind a path; **`Files.IsWritable.write`** —
  then anything can, over and over. -/

namespace Crosswalk.Files

variable {fs fs' : Files} {p : Path} {place q dest : List String} {bytes : List UInt8} {e : Entry}
  {text : String} {names : List String}

/-- **A file with certain bytes stands behind a path.** -/
def Holds (fs : Files) (p : Path) (bytes : List UInt8) : Prop :=
  ∃ place, fs.placeOf p = .ok place ∧ fs.entryAt place = some (.file (.bytes bytes))

/-- **Something can be written behind a path.** -/
def IsWritable (fs : Files) (p : Path) : Prop := ∃ fs', fs.write p [] = .ok fs'

lemma Holds.readBytes (h : fs.Holds p bytes) : fs.readBytes p = .ok bytes := by
  obtain ⟨place, hplace, hentry⟩ := h
  rw [Files.readBytes, read, hplace, ok_bind, hentry]
  rfl

lemma Holds.has (h : fs.Holds p bytes) : fs.has p = true := by
  obtain ⟨place, hplace, hentry⟩ := h
  rw [Files.has, hplace]
  simp only [hentry, Option.isSome_some]

/-! ## Home directories -/

/-- What a home directory stands for only depends on the home directories. -/
lemma expanded_congr (h : fs'.homes = fs.homes) : fs'.expanded p = fs.expanded p := by
  simp only [expanded, home?, h]

/-- **A path leads nowhere** if it starts from a home directory that is not known. -/
lemma expanded_eq_error {cause : Cause} : fs.expanded p = .error cause ↔
    cause = .unknownHome ∧ ∃ user, p.user? = some user ∧ fs.home? user = Option.none := by
  rw [expanded]
  cases p.user? with
  | none => simp
  | some user => cases hhome : fs.home? user <;> simp [hhome, eq_comm]

example : ({ entries := [], homes := [("", "/home/me/")] } : Files).expanded (.ofText "~/data")
    = .ok ⟨"/", ["home", "me", "data"]⟩ := by
  decide +kernel

/-! ## Entries -/

lemma lookup_put (e : Entry) (entries : List (List String × Entry)) :
    (put place e entries).lookup q = if q = place then some e else entries.lookup q := by
  induction entries with
  | nil => by_cases h : q = place <;> simp [put, List.lookup_cons, beq_false_of_ne, h]
  | cons d rest ih =>
      obtain ⟨r, d⟩ := d
      rw [put]
      split
      · next hr =>
          subst hr
          by_cases h : q = r <;> simp [List.lookup_cons, beq_false_of_ne, h]
      · next hr =>
          rw [List.lookup_cons, List.lookup_cons, ih]
          by_cases h : q = place
          · subst h
            simp [beq_false_of_ne (Ne.symm hr)]
          · simp [h]

lemma any_put {e : Entry} {entries : List (List String × Entry)} {f : List String → Bool}
    (h : entries.any fun (r, _) => f r) : (put place e entries).any fun (r, _) => f r := by
  induction entries with
  | nil => cases h
  | cons d rest ih =>
      obtain ⟨r, d⟩ := d
      rw [List.any_cons, Bool.or_eq_true] at h
      rw [put]
      split
      · next hr =>
          rw [List.any_cons, Bool.or_eq_true]
          exact h.imp_left fun h => hr ▸ h
      · rw [List.any_cons, Bool.or_eq_true]
        exact h.imp_right ih

lemma entryAt_set_self : (fs.set place e).entryAt place = some e := by
  rw [entryAt, Files.set, lookup_put, if_pos rfl]

/-- Directories stay, except where something else is put. -/
lemma entryAt_set_of_directory (hq : fs.entryAt q = some .directory) (hne : q ≠ place) :
    (fs.set place e).entryAt q = some .directory := by
  rw [entryAt, Files.set, lookup_put, if_neg hne]
  rw [entryAt] at hq
  cases hlookup : fs.entries.lookup q with
  | some d => rwa [hlookup] at hq
  | none =>
      rw [hlookup] at hq
      dsimp only at hq ⊢
      split at hq
      · next hthere =>
          rw [if_pos]
          simp only [Bool.or_eq_true] at hthere ⊢
          exact hthere.imp_right any_put
      · cases hq

/-! ## Ways -/

lemma follow_cons_eq_ok {name : String} : fs.follow text place (name :: names) = .ok dest ↔
    fs.entryAt place = some .directory ∧ fs.follow text (step place name) names = .ok dest := by
  rw [follow]
  cases fs.entryAt place with
  | none => simp
  | some e => cases e <;> simp

/-- A way that leads somewhere leads through directories, which stay. -/
lemma follow_set (hplace : fs.entryAt place ≠ some .directory)
    (h : fs.follow text q names = .ok dest) :
    (fs.set place e).follow text q names = .ok dest := by
  induction names generalizing q with
  | nil => exact h
  | cons name names ih =>
      obtain ⟨hq, h⟩ := follow_cons_eq_ok.1 h
      have hne : q ≠ place := by
        rintro rfl
        exact hplace hq
      exact follow_cons_eq_ok.2 ⟨entryAt_set_of_directory hq hne, ih h⟩

lemma follow_text (text' : String) (h : fs.follow text q names = .ok dest) :
    fs.follow text' q names = .ok dest := by
  induction names generalizing q with
  | nil => exact h
  | cons name names ih =>
      obtain ⟨hq, h⟩ := follow_cons_eq_ok.1 h
      exact follow_cons_eq_ok.2 ⟨hq, ih h⟩

/-- In front of the last name there is a directory. -/
lemma follow_dropLast (h : fs.follow text q names = .ok dest) (hne : names ≠ []) :
    ∃ around, fs.follow text q names.dropLast = .ok around ∧
      fs.entryAt around = some .directory := by
  induction names generalizing q with
  | nil => exact absurd rfl hne
  | cons name names ih =>
      obtain ⟨hq, h⟩ := follow_cons_eq_ok.1 h
      cases names with
      | nil => exact ⟨q, rfl, hq⟩
      | cons next names =>
          obtain ⟨around, haround, hentry⟩ := ih h (by simp)
          exact ⟨around, follow_cons_eq_ok.2 ⟨hq, haround⟩, hentry⟩

/-! ## Writing -/

/-- Making a directory leaves the home directories as they are. -/
lemma homes_makeDirectory (h : fs.makeDirectory p = .ok fs') : fs'.homes = fs.homes := by
  obtain ⟨place, -, h⟩ := bind_eq_ok.1 h
  split at h
  · cases h
    rfl
  · cases h
  · cases h
    rfl

lemma homes_makeDirectories {root : String} (h : fs.makeDirectories root names = .ok fs') :
    fs'.homes = fs.homes := by
  induction names generalizing fs' with
  | nil => exact congrArg homes (Except.ok.inj h).symm
  | cons name names ih =>
      rw [makeDirectories] at h
      split at h
      · obtain ⟨around, haround, h⟩ := bind_eq_ok.1 h
        exact (homes_makeDirectory h).trans (ih haround)
      · exact homes_makeDirectory h

/-- **Writing leaves the home directories as they are.** -/
lemma homes_write (h : fs.write p bytes = .ok fs') : fs'.homes = fs.homes := by
  obtain ⟨made, hmade, h⟩ := bind_eq_ok.1 h
  obtain ⟨place, -, h⟩ := bind_eq_ok.1 h
  have hmade := homes_makeDirectories hmade
  split at h
  · cases h
  · cases h
    exact hmade

/-- What is written does not matter to where it is written. -/
lemma write_eq_ok (h : fs.write p bytes = .ok fs') : ∃ (made : Files) (place : List String),
    made.placeOf p = .ok place ∧ made.entryAt place ≠ some .directory ∧
      ∀ bytes, fs.write p bytes = .ok (made.set place (.file (.bytes bytes))) := by
  obtain ⟨made, hmade, h⟩ := bind_eq_ok.1 h
  obtain ⟨place, hplace, h⟩ := bind_eq_ok.1 h
  have hentry : made.entryAt place ≠ some .directory := by
    intro hdirectory
    rw [hdirectory] at h
    cases h
  refine ⟨made, place, hplace, hentry, fun bytes => ?_⟩
  rw [write, hmade, ok_bind, hplace, ok_bind]
  split
  · next hdirectory => exact absurd hdirectory hentry
  · rfl

/-- **What was written stands there.** -/
theorem holds_of_write (h : fs.write p bytes = .ok fs') : fs'.Holds p bytes := by
  obtain ⟨made, place, hplace, hentry, hwrite⟩ := write_eq_ok h
  obtain rfl := Except.ok.inj ((hwrite bytes).symm.trans h)
  -- the way to the file leads through directories alone, so the file is not in its own way
  exact ⟨place, follow_set hentry hplace, entryAt_set_self⟩

/-- Directories that are there are not made. -/
lemma Holds.makeDirectories (h : fs.Holds p bytes) :
    fs.makeDirectories p.root p.parent.names.reverse = .ok fs := by
  obtain ⟨place, hplace, -⟩ := h
  cases hnames : p.parent.names.reverse with
  | nil => rfl
  | cons name names =>
      have hparent : (⟨p.root, (name :: names).reverse⟩ : Path) = p.parent := by
        rw [← hnames, List.reverse_reverse]
        rfl
      have hne : p.names ≠ [] := by
        intro heq
        have : p.parent.names = [] := by rw [Path.parent, heq, List.dropLast_nil]
        simp [this] at hnames
      -- the directory around the file can be made, because it is there
      obtain ⟨around, haround, hentry⟩ := follow_dropLast hplace hne
      have hmake : fs.makeDirectory p.parent = .ok fs := by
        have hplace' : fs.placeOf p.parent = .ok around := follow_text _ haround
        rw [makeDirectory, hplace', ok_bind, hentry]
      rw [Files.makeDirectories, hparent, hmake]

/-- A file can be written over. -/
lemma Holds.isWritable (h : fs.Holds p bytes) : fs.IsWritable p := by
  have hmake := h.makeDirectories
  obtain ⟨place, hplace, hentry⟩ := h
  refine ⟨fs.set place (.file (.bytes [])), ?_⟩
  rw [write, hmake, ok_bind, hplace, ok_bind, hentry]

/-- **Where something can be written**, anything can be written, over and over. -/
theorem IsWritable.write (h : fs.IsWritable p) (bytes : List UInt8) :
    ∃ fs', fs.write p bytes = .ok fs' ∧ fs'.Holds p bytes ∧ fs'.IsWritable p := by
  obtain ⟨fs', h⟩ := h
  obtain ⟨made, place, -, -, hwrite⟩ := write_eq_ok h
  have hholds := holds_of_write (hwrite bytes)
  exact ⟨_, hwrite bytes, hholds, hholds.isWritable⟩

end Crosswalk.Files
