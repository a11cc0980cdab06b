/-
  The line of definitions that a grammar comes from.

  1. **Registered definitions** — `registered?` reads what is filed under a key.  It is what a name of
     this key leads to, whatever lies in the directories (`find_of_registered`).

  2. **Lines** — `Lineage` follows the names of parents from a name up to a definition without one,
     and `layered` lays the definitions of such a line over each other, the last one first.  A name
     has one line only (`Lineage.unique`).

  3. **Lines without directories** — where all definitions are registered, it does not matter how a
     name is spelled (`Lineage.respell`), and no key comes twice in a line (`Lineage.nodup`).

  4. **The steps of a load** — what `build`, `resolve` and `load` do (`build_ok`,
     `resolve_cases`, `load_cases`), and that they leave the definitions alone (`resolve_frame`).

  5. **Soundness** — a library is `Traced` when what it keeps comes from lines of definitions.  Then
     so does every grammar that is loaded by name (`resolve_line`).
-/
import Highlight.Grammar.Library

namespace Highlight

/-! ## Results

  Calls give a result or an error.  What they say is often compared without the one or the other. -/

section Results

variable {ε α : Type} {result : Except ε α}

/-- What a call returns, leaving out why it may fail. -/
theorem toOption_eq_some_iff {a : α} : result.toOption = some a ↔ result = .ok a := by
  cases result with
  | error e => simp [Except.toOption]
  | ok b => simp [Except.toOption]

/-- A call that is seen to return something returns it. -/
theorem exists_eq_ok_of_isSome (h : result.toOption.isSome) : ∃ a, result = .ok a := by
  obtain ⟨a, ha⟩ := Option.isSome_iff_exists.mp h
  exact ⟨a, toOption_eq_some_iff.mp ha⟩

/-- Why a call fails, if it does.  Errors can be compared where what is returned cannot. -/
def errorOf? : Except ε α → Option ε
  | .ok _ => none
  | .error e => some e

/-- A call fails for the reason that it is seen to fail for. -/
theorem errorOf?_eq_some_iff {e : ε} : errorOf? result = some e ↔ result = .error e := by
  cases result with
  | error e' => simp [errorOf?]
  | ok b => simp [errorOf?]

end Results

namespace GrammarLibrary

/-! ## Registered definitions

  What is filed under a key is either a definition that was read before or a text still to be read.
  `registered?` does not tell them apart. -/

/-- The definition that is registered under a key, if there is one and it can be read. -/
def registered? (library : GrammarLibrary) (key : String) : Option Definition :=
  (library.sources.find? key).bind fun source => (read source).toOption

/-- What is registered under a key is a source that can be read. -/
theorem registered?_eq_some_iff {library : GrammarLibrary} {key : String} {d : Definition} :
    library.registered? key = some d
      ↔ ∃ source, library.sources.find? key = some source ∧ read source = .ok d := by
  unfold registered?
  rw [Option.bind_eq_some_iff]
  exact exists_congr fun source => and_congr_right fun _ => toOption_eq_some_iff

theorem isSome_of_registered {library : GrammarLibrary} {key : String} {d : Definition}
    (h : library.registered? key = some d) : (library.sources.find? key).isSome := by
  obtain ⟨source, hsource, -⟩ := registered?_eq_some_iff.mp h
  exact Option.isSome_of_eq_some hsource

/-- What cannot be read is not registered. -/
theorem registered?_of_error {library : GrammarLibrary} {key : String} {source : Source Definition}
    {e : GrammarError} (hsource : library.sources.find? key = some source)
    (hread : read source = .error e) : library.registered? key = none := by
  rw [registered?, hsource, Option.bind_some, hread]
  rfl

/-- What is registered under a key depends on what is filed there only. -/
theorem registered?_congr {a b : GrammarLibrary} {key : String}
    (h : b.sources.find? key = a.sources.find? key) : b.registered? key = a.registered? key := by
  unfold registered?
  rw [h]

/-- A library with more sources has all registered definitions of the other. -/
theorem registered?_mono {a b : GrammarLibrary} {key : String} {d : Definition}
    (hsources : ∀ source, a.sources.find? key = some source → b.sources.find? key = some source)
    (h : a.registered? key = some d) : b.registered? key = some d := by
  obtain ⟨source, hsource, hread⟩ := registered?_eq_some_iff.mp h
  exact registered?_eq_some_iff.mpr ⟨source, hsources source hsource, hread⟩

section Registering

variable (library : GrammarLibrary) (name : String)

/-- What a text is read as, leaving out why it may not be. -/
theorem toOption_read_text (text : String) :
    (read (.text text)).toOption = Definition.parse? text := by
  show (parse text).toOption = _
  unfold parse
  cases Definition.parse? text with
  | none => rfl
  | some d => rfl

/-- What is registered last under a name is what its key leads to. -/
@[simp] theorem registered?_registerSource_self (source : Source Definition) :
    (library.registerSource name source).registered? (nameKey name) = (read source).toOption := by
  show ((library.sources.set (nameKey name) source).find? (nameKey name)).bind _ = _
  rw [Dict.find?_set_self]
  rfl

@[simp] theorem registered?_register_self (text : String) :
    (library.register name text).registered? (nameKey name) = Definition.parse? text := by
  rw [register, registered?_registerSource_self, toOption_read_text]

/-- Registering under one key leaves the others alone. -/
theorem registered?_registerSource_of_ne {key : String} (h : nameKey name ≠ key)
    (source : Source Definition) :
    (library.registerSource name source).registered? key = library.registered? key :=
  registered?_congr (Dict.find?_set_of_ne h _ _)

@[simp] theorem registered?_forget_self :
    (library.forget name).registered? (nameKey name) = none := by
  show ((library.sources.erase (nameKey name)).find? (nameKey name)).bind _ = _
  rw [Dict.find?_erase_self]
  rfl

/-- So does forgetting. -/
theorem registered?_forget_of_ne {key : String} (h : nameKey name ≠ key) :
    (library.forget name).registered? key = library.registered? key :=
  registered?_congr (Dict.find?_erase_of_ne h _)

end Registering

/-- What is filed under the key of a name is found before all else. -/
theorem find_of_filed {library : GrammarLibrary} {name : String} {source : Source Definition}
    (h : library.sources.find? (nameKey name) = some source) : library.find name = read source := by
  unfold find findSource
  rw [h]

/-- **A registered definition is found**, before any file is looked at. -/
theorem find_of_registered {library : GrammarLibrary} {name : String} {d : Definition}
    (h : library.registered? (nameKey name) = some d) : library.find name = .ok d := by
  obtain ⟨source, hsource, hread⟩ := registered?_eq_some_iff.mp h
  exact (find_of_filed hsource).trans hread

/-! ## Lines

  `Lineage` is about any library, with directories or without: a name may be spelled so that it
  finds a file first, and hence the spelling is part of it. -/

/-- The definitions that a name leads to, each under the key by which it was asked for: the one of
    this name, its parent, and so on up to one without a parent. -/
inductive Lineage (library : GrammarLibrary) : String → List (String × Definition) → Prop
  | root {name : String} {d : Definition} (hfind : library.find name = .ok d)
      (hname : d.declaredName?.isSome) (hparent : d.parent = none) :
      Lineage library name [(nameKey name, d)]
  | derived {name parent : String} {d : Definition} {line : List (String × Definition)}
      (hfind : library.find name = .ok d) (hname : d.declaredName?.isSome)
      (hparent : d.parent = some parent) (hline : Lineage library parent line) :
      Lineage library name ((nameKey name, d) :: line)

/-- What stands behind a definition: nothing, or the line of its parent. -/
inductive LineBehind (library : GrammarLibrary) (d : Definition) :
    List (String × Definition) → Prop
  | root (hparent : d.parent = none) : LineBehind library d []
  | derived {parent : String} {line : List (String × Definition)} (hparent : d.parent = some parent)
      (hline : Lineage library parent line) : LineBehind library d line

/-- The grammar of a line: each definition laid over the grammar of those behind it. -/
def layered (limits : Limits) : List (String × Definition) → Grammar
  | [] => .plain "" limits
  | (_, d) :: line => (d.applyTo (d.declaredName?.getD "") (layered limits line)).1

@[simp] theorem layered_parent (limits : Limits) (key : String) (d : Definition)
    (line : List (String × Definition)) :
    (layered limits ((key, d) :: line)).parent = d.parent := rfl

/-- The name and the parent of the grammar below do not count. -/
theorem applyTo_plain (d : Definition) (name a b : String) (limits : Limits) :
    (d.applyTo name (.plain a limits)).1 = (d.applyTo name (.plain b limits)).1 := rfl

/-- A line depends on the definitions of its own names only. -/
theorem Lineage.congr {library library' : GrammarLibrary} {name : String}
    {line : List (String × Definition)} (h : Lineage library name line)
    (hfind : ∀ n, nameKey n ∈ line.map (·.1) → library'.find n = library.find n) :
    Lineage library' name line := by
  induction h with
  | root hd hname hparent =>
    refine .root ?_ hname hparent
    rw [hfind _ (List.mem_cons_self ..)]
    exact hd
  | derived hd hname hparent _ ih =>
    refine .derived ?_ hname hparent (ih fun n hn => hfind n (List.mem_cons_of_mem _ hn))
    rw [hfind _ (List.mem_cons_self ..)]
    exact hd

/-- A name has one line only. -/
theorem Lineage.unique {library : GrammarLibrary} {name : String}
    {line line' : List (String × Definition)} (h : Lineage library name line)
    (h' : Lineage library name line') : line = line' := by
  induction h generalizing line' with
  | root hd _ hparent =>
    cases h' with
    | root hd' _ _ => rw [Except.ok.inj (hd.symm.trans hd')]
    | derived hd' _ hparent' _ =>
      obtain rfl := Except.ok.inj (hd.symm.trans hd')
      exact absurd (hparent.symm.trans hparent') (by simp)
  | derived hd _ hparent _ ih =>
    cases h' with
    | root hd' _ hparent' =>
      obtain rfl := Except.ok.inj (hd.symm.trans hd')
      exact absurd (hparent.symm.trans hparent') (by simp)
    | derived hd' _ hparent' hline' =>
      obtain rfl := Except.ok.inj (hd.symm.trans hd')
      obtain rfl := Option.some.inj (hparent.symm.trans hparent')
      rw [ih hline']

/-! ## Lines without directories

  Here a name finds what is filed under its key and nothing else.  So a line can be told by its
  keys, and since it ends, it cannot come back to one of them. -/

section NoDirs

variable {library : GrammarLibrary}

/-- Without directories a definition is found if it is registered, and by its key only. -/
theorem find_of_noDirs (hdirs : library.config.grammarDirs = []) (name : String) :
    library.find name = match library.sources.find? (nameKey name) with
      | some source => read source
      | none => .error (.notFound name) := by
  unfold find findSource candidates
  rw [hdirs]
  cases library.sources.find? (nameKey name) with
  | none => rfl
  | some source => rfl

/-- Without directories nothing else is found. -/
theorem find_eq_ok_iff (hdirs : library.config.grammarDirs = []) {name : String}
    {d : Definition} : library.find name = .ok d ↔ library.registered? (nameKey name) = some d := by
  rw [find_of_noDirs hdirs, registered?_eq_some_iff]
  cases library.sources.find? (nameKey name) with
  | none => simp
  | some source => simp

variable {name name' : String} {line : List (String × Definition)}

/-- How a name is spelled does not matter. -/
theorem Lineage.respell (hdirs : library.config.grammarDirs = []) (h : Lineage library name line)
    (hkey : nameKey name' = nameKey name) : Lineage library name' line := by
  have hfind : ∀ {d : Definition}, library.find name = .ok d → library.find name' = .ok d := by
    intro d hd
    rw [find_eq_ok_iff hdirs] at hd ⊢
    rw [hkey]
    exact hd
  cases h with
  | root hd hname hparent =>
    rw [← hkey]
    exact .root (hfind hd) hname hparent
  | derived hd hname hparent hline =>
    rw [← hkey]
    exact .derived (hfind hd) hname hparent hline

/-- A line begins with what its name finds, and goes on with the line of the parent. -/
theorem Lineage.uncons {key : String} {d : Definition}
    (h : Lineage library name ((key, d) :: line)) : key = nameKey name ∧
      library.find name = .ok d ∧ d.declaredName?.isSome ∧
      (line = [] ∨ ∃ parent, d.parent = some parent ∧ Lineage library parent line) := by
  generalize hall : (key, d) :: line = all at h
  cases h with
  | root hfind hname hparent =>
    obtain ⟨⟨rfl, rfl⟩, rfl⟩ := by simpa using hall
    exact ⟨rfl, hfind, hname, .inl rfl⟩
  | derived hfind hname hparent hline =>
    obtain ⟨⟨rfl, rfl⟩, rfl⟩ := by simpa using hall
    exact ⟨rfl, hfind, hname, .inr ⟨_, hparent, hline⟩⟩

/-- From every key in a line on there is a line. -/
theorem Lineage.behind (h : Lineage library name line) {key : String}
    (hkey : key ∈ line.map (·.1)) :
    ∃ name' line', nameKey name' = key ∧ Lineage library name' line' ∧
      line'.length ≤ line.length := by
  induction h with
  | @root name d hd hname hparent =>
    obtain rfl : key = nameKey name := by simpa using hkey
    exact ⟨name, _, rfl, .root hd hname hparent, Nat.le_refl _⟩
  | @derived name parent d line hd hname hparent hline ih =>
    rcases List.mem_cons.mp hkey with rfl | hkey
    · exact ⟨name, _, rfl, .derived hd hname hparent hline, Nat.le_refl _⟩
    · obtain ⟨name', line', hname', hline', hlen⟩ := ih hkey
      exact ⟨name', line', hname', hline', Nat.le_succ_of_le hlen⟩

/-- **No key comes twice in a line**, for a line that came back to a key would not end. -/
theorem Lineage.nodup (hdirs : library.config.grammarDirs = []) (h : Lineage library name line) :
    (line.map (·.1)).Nodup := by
  induction h with
  | root => simp
  | @derived name parent d line hd hname hparent hline ih =>
    rw [List.map_cons, List.nodup_cons]
    refine ⟨fun hmem => ?_, ih⟩
    -- the line from there on would be this one, and yet be shorter
    obtain ⟨name', line', hkey, hline', hlen⟩ := hline.behind hmem
    have hsame := (Lineage.derived hd hname hparent hline).unique (hline'.respell hdirs hkey.symm)
    rw [← hsame, List.length_cons] at hlen
    omega

/-- What comes before a key in a line is not this key. -/
theorem Lineage.before_ne (hdirs : library.config.grammarDirs = []) {key : String} {d : Definition}
    {before rest : List (String × Definition)}
    (h : Lineage library name (before ++ (key, d) :: rest)) : ∀ k ∈ before.map (·.1), k ≠ key := by
  have hnodup := h.nodup hdirs
  rw [List.map_append, List.map_cons] at hnodup
  exact fun k hmem => (List.nodup_append.mp hnodup).2.2 k hmem key (List.mem_cons_self ..)

end NoDirs

/-! ## The steps of a load

  `build` and `resolve` call each other.  What they do is said once, in `build_ok` and in
  `resolve_cases`, and every property of loads is proved from these by induction on the fuel;
  `Frame` collects what no load changes. -/

/-- Two libraries with the same definitions. -/
structure Frame (a b : GrammarLibrary) : Prop where
  config : b.config = a.config
  files : b.files = a.files
  sources : b.sources = a.sources

namespace Frame

variable {a b c : GrammarLibrary}

theorem refl (a : GrammarLibrary) : Frame a a := ⟨rfl, rfl, rfl⟩

theorem symm (h : Frame a b) : Frame b a := ⟨h.config.symm, h.files.symm, h.sources.symm⟩

theorem trans (h : Frame a b) (h' : Frame b c) : Frame a c :=
  ⟨h'.config.trans h.config, h'.files.trans h.files, h'.sources.trans h.sources⟩

/-- Where a name leads depends on what loads leave alone. -/
theorem findSource (h : Frame a b) (name : String) : b.findSource name = a.findSource name := by
  unfold GrammarLibrary.findSource candidates
  rw [h.config, h.files, h.sources]

/-- And so does what it leads to. -/
theorem find (h : Frame a b) (name : String) : b.find name = a.find name := by
  unfold GrammarLibrary.find
  rw [h.findSource]

/-- The lines of a library are those of any other with the same frame. -/
theorem lineage (h : Frame a b) {name : String} {line : List (String × Definition)}
    (hline : Lineage a name line) : Lineage b name line :=
  hline.congr fun n _ => h.find n

end Frame

section Load

variable {parentOf : List String → String → GrammarLibrary → Outcome} {chain : List String}
  {d : Definition} {library : GrammarLibrary} {g : Grammar} {name : String}

/-- What holds of a library whatever has been counted and whichever problems have been met. -/
def Robust (P : GrammarLibrary → Prop) : Prop :=
  ∀ library parsed problems, P library → P { library with parsed := parsed, problems := problems }

/-- Laying a definition over its parent changes the list of problems only. -/
theorem derive_robust {P : GrammarLibrary → Prop} (hP : Robust P) (d : Definition) (name : String)
    {outcome : Outcome} (h : P outcome.2) : P (derive d name outcome).2 := by
  obtain ⟨result, library⟩ := outcome
  cases result with
  | error e => exact h
  | ok base => exact hP library library.parsed _ h

/-- Making a grammar keeps what loading its parent keeps. -/
theorem build_robust {P : GrammarLibrary → Prop} (hP : Robust P)
    (hparentOf : ∀ chain name library, P library → P (parentOf chain name library).2)
    (h : P library) : P (build parentOf chain d library).2 := by
  have hcounted := hP library (library.parsed + 1) library.problems h
  unfold build
  simp only
  split
  · exact hcounted
  · split
    · exact hcounted
    · refine derive_robust hP d _ ?_
      split
      · exact hcounted
      · exact hparentOf _ _ _ hcounted

/-- A grammar that is made is that of a definition with a name, laid over the grammar of its
    parent, if it has one. -/
theorem build_ok (h : (build parentOf chain d library).1 = .ok g) :
    ∃ name, d.declaredName? = some name ∧ nameKey name ∉ chain ∧
      ((d.parent = none ∧ g = (d.applyTo name (.plain name library.config.limits)).1) ∨
        ∃ parent base below, d.parent = some parent ∧ g = (d.applyTo name base).1 ∧
          parentOf (chain ++ [nameKey name]) parent { library with parsed := library.parsed + 1 }
            = (.ok base, below) ∧
          (build parentOf chain d library).2.loaded = below.loaded) := by
  unfold build at h ⊢
  simp only at h ⊢
  split at h
  · exact absurd h (by simp)
  · rename_i name hname
    split at h
    · exact absurd h (by simp)
    · rename_i hchain
      refine ⟨name, hname, hchain, ?_⟩
      rw [if_neg hchain]
      cases hparent : d.parent with
      | none =>
        rw [hparent] at h
        exact .inl ⟨rfl, (Except.ok.inj h).symm⟩
      | some parent =>
        rw [hparent] at h
        rcases hbase : parentOf (chain ++ [nameKey name]) parent
          { library with parsed := library.parsed + 1 } with ⟨result, below⟩
        simp only [hbase] at h ⊢
        cases result with
        | error e => exact absurd h (by simp [derive])
        | ok base => exact .inr ⟨parent, base, below, rfl, (Except.ok.inj h).symm, hbase, rfl⟩

/-- Making a grammar leaves the definitions alone, if loading its parent does. -/
theorem build_frame
    (hparentOf : ∀ chain name below, Frame below (parentOf chain name below).2) :
    Frame library (build parentOf chain d library).2 :=
  build_robust (P := Frame library) (fun _ _ _ h => ⟨h.config, h.files, h.sources⟩)
    (fun _ _ _ h => h.trans (hparentOf _ _ _)) (.refl _)

/-- What loading by name does: it gives up at once, or finds the grammar kept, or makes it of its
    definition; then the grammar is kept if this succeeds. -/
theorem resolve_cases (less : Nat) (chain : List String) (name : String)
    (library : GrammarLibrary) :
    (∃ e, resolve (less + 1) chain name library = (.error e, library)) ∨
      (∃ g, library.loaded.find? (nameKey name) = some g ∧
        resolve (less + 1) chain name library = (.ok g, library)) ∨
      ∃ d, library.find name = .ok d ∧
        ((∃ e, resolve (less + 1) chain name library
            = (.error e, (build (resolve less) chain d library).2)) ∨
          ∃ g, (build (resolve less) chain d library).1 = .ok g ∧
            resolve (less + 1) chain name library
              = (.ok g, { (build (resolve less) chain d library).2 with
                  loaded := (build (resolve less) chain d library).2.loaded.set
                    (nameKey name) g })) := by
  unfold resolve
  split
  · exact .inl ⟨_, rfl⟩
  · split
    · rename_i g hkept
      exact .inr (.inl ⟨g, hkept, rfl⟩)
    · split
      · exact .inl ⟨_, rfl⟩
      · rename_i d hfind
        refine .inr (.inr ⟨d, hfind, ?_⟩)
        rcases build (resolve less) chain d library with ⟨e | g, after⟩
        · exact .inl ⟨e, rfl⟩
        · exact .inr ⟨g, rfl, rfl⟩

/-- What loading a text does: the text is malformed, or a grammar is made of its definition. -/
theorem load_cases (library : GrammarLibrary) (text : String) :
    (∃ e, parse text = .error e ∧
        library.load text = (.error e, { library with problems := [] })) ∨
      ∃ d, parse text = .ok d ∧
        library.load text = build (resolve library.room) [] d { library with problems := [] } := by
  cases hparse : parse text with
  | error e => exact .inl ⟨e, rfl, load_of_error hparse⟩
  | ok d => exact .inr ⟨d, rfl, load_of_ok hparse⟩

/-- Loading leaves the definitions alone. -/
theorem resolve_frame (fuel : Nat) (chain : List String) (name : String)
    (library : GrammarLibrary) : Frame library (resolve fuel chain name library).2 := by
  induction fuel generalizing chain name library with
  | zero => exact .refl _
  | succ less ih =>
    have hbuild : ∀ d, Frame library (build (resolve less) chain d library).2 :=
      fun _ => build_frame ih
    rcases resolve_cases less chain name library with
      ⟨e, h⟩ | ⟨g, -, h⟩ | ⟨d, -, ⟨e, h⟩ | ⟨g, -, h⟩⟩
    · rw [h]
      exact .refl _
    · rw [h]
      exact .refl _
    · rw [h]
      exact hbuild d
    · rw [h]
      exact ⟨(hbuild d).config, (hbuild d).files, (hbuild d).sources⟩

end Load

/-! ## Soundness

  What is kept may stand for a definition and all that is behind it.  So a load may stop where it
  finds something kept, and the grammar still comes from a whole line. -/

/-- Every grammar that is kept comes from a line of definitions, however its name is spelled. -/
def Traced (library : GrammarLibrary) : Prop :=
  ∀ name g, library.loaded.find? (nameKey name) = some g →
    ∃ line, Lineage library name line ∧ g = layered library.config.limits line

/-- A library that keeps nothing is traced. -/
theorem traced_of_empty {library : GrammarLibrary} (h : library.loaded = []) : Traced library := by
  intro name g hkept
  rw [h] at hkept
  exact absurd hkept (by simp)

/-- Being traced depends on the frame and on what is kept. -/
theorem Traced.frame {a b : GrammarLibrary} (h : Traced a) (hframe : Frame a b)
    (hloaded : b.loaded = a.loaded) : Traced b := by
  intro name g hkept
  rw [hloaded] at hkept
  obtain ⟨line, hline, hg⟩ := h name g hkept
  exact ⟨line, hframe.lineage hline, by rw [hframe.config]; exact hg⟩

/-- A grammar that is made of a definition comes from this one and the line of its parent. -/
theorem build_layers {parentOf : List String → String → GrammarLibrary → Outcome}
    {chain : List String} {d : Definition} {library : GrammarLibrary} {g : Grammar}
    (hparentOf : ∀ chain parent below base, Frame library below → below.loaded = library.loaded →
      (parentOf chain parent below).1 = .ok base →
        ∃ line, Lineage below parent line ∧ base = layered below.config.limits line)
    (h : (build parentOf chain d library).1 = .ok g) :
    ∃ line, d.declaredName?.isSome ∧ LineBehind library d line ∧
      ∀ key, g = layered library.config.limits ((key, d) :: line) := by
  obtain ⟨declared, hname, -, hcase⟩ := build_ok h
  have hsome : d.declaredName?.isSome := by rw [hname]; rfl
  have hgetD : d.declaredName?.getD "" = declared := by rw [hname]; rfl
  rcases hcase with ⟨hparent, hg⟩ | ⟨parent, base, below, hparent, hg, hbase, -⟩
  · refine ⟨[], hsome, .root hparent, fun key => ?_⟩
    rw [hg, layered, hgetD]
    exact applyTo_plain ..
  · have hcount : Frame library { library with parsed := library.parsed + 1 } := ⟨rfl, rfl, rfl⟩
    obtain ⟨line, hline, rfl⟩ := hparentOf _ _ _ _ hcount rfl (congrArg Prod.fst hbase)
    refine ⟨line, hsome, .derived hparent (hcount.symm.lineage hline), fun key => ?_⟩
    rw [hg, layered, hgetD]

/-- So if the definition is that of a name, the grammar comes from the line of this name. -/
theorem build_line {parentOf : List String → String → GrammarLibrary → Outcome}
    {chain : List String} {name : String} {d : Definition} {library : GrammarLibrary}
    {g : Grammar} (hfind : library.find name = .ok d)
    (hparentOf : ∀ chain parent below base, Frame library below → below.loaded = library.loaded →
      (parentOf chain parent below).1 = .ok base →
        ∃ line, Lineage below parent line ∧ base = layered below.config.limits line)
    (h : (build parentOf chain d library).1 = .ok g) :
    ∃ line, Lineage library name line ∧ g = layered library.config.limits line := by
  obtain ⟨line, hname, hbehind, hg⟩ := build_layers hparentOf h
  refine ⟨_, ?_, hg (nameKey name)⟩
  cases hbehind with
  | root hparent => exact .root hfind hname hparent
  | derived hparent hline => exact .derived hfind hname hparent hline

/-- **A grammar that is loaded by name comes from the line of this name.** -/
theorem resolve_line {fuel : Nat} {chain : List String} {name : String} {library : GrammarLibrary}
    {g : Grammar} (htraced : Traced library) (h : (resolve fuel chain name library).1 = .ok g) :
    ∃ line, Lineage library name line ∧ g = layered library.config.limits line := by
  induction fuel generalizing chain name library g with
  | zero => exact absurd h (by simp [resolve])
  | succ less ih =>
    rcases resolve_cases less chain name library with
      ⟨e, hr⟩ | ⟨g', hkept, hr⟩ | ⟨d, hfind, ⟨e, hr⟩ | ⟨g', hbuild, hr⟩⟩
    · rw [hr] at h
      exact absurd h (by simp)
    · rw [hr] at h
      obtain rfl := Except.ok.inj h
      exact htraced name _ hkept
    · rw [hr] at h
      exact absurd h (by simp)
    · rw [hr] at h
      obtain rfl := Except.ok.inj h
      exact build_line hfind
        (fun _ _ _ _ hframe hloaded hbase => ih (htraced.frame hframe hloaded) hbase) hbuild

end GrammarLibrary

end Highlight
