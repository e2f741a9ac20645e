import Mathlib.Data.List.Basic
import MetricsAgent.Settings.Load

/-!
# Discovery of the settings file

The settings file is looked for at one place if it is named, and at two if it is not
(`Settings.searched`); the first place at which there is something decides (`Settings.found`).
`Settings.findFile_eq` says what comes of that: only a file that is named must be there.
-/

namespace MetricsAgent
namespace Settings

/-! ## The settings file -/

/-- The name of the settings file: the one that is given, or else the one in the environment. -/
def askedFor (h : Host) (named : Option String) : Option String :=
  (named.filter (!·.isEmpty)).or ((h.env.get? "DBPULSE_CONFIG_PATH").filter (!·.isEmpty))

/-- The places where the settings file is looked for, one after the other; they are not known if a
home directory is needed that is not known. -/
def searched (h : Host) (named : Option String) : Option (List FilePath) :=
  match askedFor h named with
  | some name => ((FilePath.ofText name).expandHome? h.env).map fun p => [p]
  | none => h.env.home?.map fun home => [home.join userPath, h.systemFile]

/-- The first of the places at which there is something. -/
def found (h : Host) (named : Option String) : Option FilePath :=
  (searched h named).bind fun ps => ps.find? fun p => h.files.lookUp p ≠ .missing

variable {h : Host} {named : Option String}

/-! ## Search -/

/-- The first of several places at which there is something, found by looking at one after the
other. -/
def firstOf (h : Host) : List FilePath → Except LoadFailure (Option FilePath)
  | [] => .ok none
  | p :: ps => do
    if ← exists? h p then return some p else firstOf h ps

lemma firstOf_eq (h : Host) (ps : List FilePath) : firstOf h ps =
    match ps.find? fun p => h.files.lookUp p ≠ .missing with
    | some p =>
      if h.files.lookUp p = .nameTooLong then .error (.nameTooLong p.text) else .ok (some p)
    | none => .ok none := by
  induction ps with
  | nil => rfl
  | cons p ps ih =>
    rw [firstOf, List.find?_cons, exists?]
    cases hentry : h.files.lookUp p with
    | missing => exact ih
    | file bytes => simp [hentry]; rfl
    | directory => simp [hentry]; rfl
    | nameTooLong => simp [hentry]; rfl

/-- Only a file that is named must be there. -/
lemma findFile_eq_firstOf (h : Host) (named : Option String) : findFile h named =
    match searched h named with
    | none => .error .noHome
    | some ps => firstOf h ps >>= fun file =>
      match file, named.filter (!·.isEmpty) with
      | none, some name => .error (.notFound name)
      | file, _ => .ok file := by
  unfold findFile searched askedFor
  cases named.filter (!·.isEmpty) with
  | some name =>
    -- The file that is named, and no other.
    rw [Option.some_or]
    dsimp only
    rw [givenPath]
    cases (FilePath.ofText name).expandHome? h.env with
    | none => rfl
    | some p =>
      show (exists? h p >>= _) = (exists? h p >>= _) >>= _
      cases exists? h p with
      | error f => rfl
      | ok there => cases there <;> rfl
  | none =>
    rw [Option.none_or]
    cases (h.env.get? "DBPULSE_CONFIG_PATH").filter (!·.isEmpty) with
    | some name =>
      -- The file in the environment, and no other.
      dsimp only
      rw [givenPath]
      cases (FilePath.ofText name).expandHome? h.env with
      | none => rfl
      | some p =>
        show (exists? h p >>= _) = (exists? h p >>= _) >>= _
        cases exists? h p with
        | error f => rfl
        | ok there => cases there <;> rfl
    | none =>
      -- The file of the user, and then that of the system.
      cases h.env.home? with
      | none => rfl
      | some home =>
        show (exists? h _ >>= _) = (exists? h _ >>= _) >>= _
        cases exists? h (home.join userPath) with
        | error f => rfl
        | ok there =>
          cases there with
          | true => rfl
          | false =>
            show (exists? h _ >>= _) = (exists? h _ >>= _) >>= _
            cases exists? h h.systemFile with
            | error f => rfl
            | ok there => cases there <;> rfl

lemma findFile_eq (h : Host) (named : Option String) : findFile h named =
    match searched h named with
    | none => .error .noHome
    | some _ =>
      match found h named with
      | some p =>
        if h.files.lookUp p = .nameTooLong then .error (.nameTooLong p.text) else .ok (some p)
      | none =>
        match named.filter (!·.isEmpty) with
        | some name => .error (.notFound name)
        | none => .ok none := by
  rw [findFile_eq_firstOf, found]
  cases searched h named with
  | none => rfl
  | some ps =>
    dsimp only
    rw [firstOf_eq, Option.bind_some]
    cases ps.find? fun p => h.files.lookUp p ≠ .missing with
    | none => cases named.filter (!·.isEmpty) <;> rfl
    | some p =>
      dsimp only
      split_ifs
      · rfl
      · cases named.filter (!·.isEmpty) <;> rfl

lemma findFile_of_found {p : FilePath} (hfound : found h named = some p)
    (hentry : h.files.lookUp p ≠ .nameTooLong) : findFile h named = .ok (some p) := by
  cases hsearched : searched h named with
  | none =>
    rw [found, hsearched] at hfound
    cases hfound
  | some ps =>
    rw [findFile_eq, hsearched]
    dsimp only
    rw [hfound]
    dsimp only
    rw [if_neg hentry]

lemma lookUp_ne_missing {p : FilePath} (hfound : found h named = some p) :
    h.files.lookUp p ≠ .missing := by
  obtain ⟨ps, -, hp⟩ := Option.bind_eq_some_iff.mp hfound
  simpa using List.find?_some hp

end Settings
end MetricsAgent
