/-
  Constructs that the end of the line closes.

  A closing delimiter may have the end of the text among its alternatives.  Then there is a closing
  delimiter at the end of every line, of nothing at all, and a construct stays open only where an
  odd run of escapes hides just this one.

  1. **The crux** — a search in vain has passed over every place from its beginning on, the end of
     the line included.  Nothing lies behind it, so it can only be hidden by the escapes that end
     there, and of these the last one is the last character of the line (`Finds.escaped_end`).
     Without escapes nothing is hidden.

  2. **Built-in grammars** — the characters of C and the quotations of Python that are closed by
     `'|$`; the former have no escapes, those of the latter begin with a backslash.

  Main result: **`exit_lineEnd`**.
-/
import Highlight.Proofs.Pattern.Ends
import Highlight.Proofs.Scan.Unclosed
import Highlight.Proofs.Library.Inheritance
import Highlight.Proofs.Workspace.Growth

namespace Highlight

/-! ## Escapes at the end of a line

  From a search in vain to the last character of the line. -/

namespace Closing

variable {d : Delimiters} {text : Text} {inner : Nat} {found : EndSearch}

/-- Without an escape pattern no escapes are recorded. -/
theorem Finds.escapes_eq_nil (h : Finds d text inner found) (hescape : d.escape = none) :
    found.escapes = [] := by
  refine List.eq_nil_iff_forall_not_mem.mpr fun e he => ?_
  obtain ⟨p, hp, -⟩ := (h.recorded e he).escapes
  exact absurd (hescape.symm.trans hp) (by simp)

/-- An escape of one character that ends with the line is its last character. -/
theorem OneChar.last {start : Nat} (h : OneChar text (start, text.size)) :
    ∃ (before : Text) (c : Char), text = before ++ [c] ∧ start = before.size := by
  obtain ⟨before, c, after, htext, heq⟩ := h
  obtain ⟨hstart, hstop⟩ := Prod.mk.inj heq
  have hafter : after = [] := by
    refine Text.eq_nil_of_size ?_
    have hsize : text.size = before.size + (c.utf8Size + after.size) := by
      rw [htext, Text.size_append, Text.size_cons]
    omega
  exact ⟨before, c, by rw [htext, hafter], hstart⟩

/-- **A closing delimiter at the end of the line is hidden by the last character only**, if the
    search is in vain: this character is an escape by itself. -/
theorem Finds.escaped_end (h : Finds d text inner found) (hinner : inner ≤ text.size)
    (hend : d.closing.ReachesEnd) (hstop : found.stop = none) :
    ∃ (before : Text) (c : Char), text = before ++ [c] ∧
      (before.size, text.size) ∈ found.escapes := by
  -- a match at or after the end of the line is one at its end
  have hmatch : d.closing.MatchesAt text text.size := by
    obtain ⟨m, hm⟩ := Option.isSome_iff_exists.mp (hend text text.size (Nat.le_refl _))
    have hbounds := Pattern.le_of_findAt hm
    have hstart : m.1 = text.size := by omega
    exact hstart ▸ (Pattern.matches_of_findAt hm).at
  have hhidden := (h.unended hstop text.size hinner).closing hmatch
  generalize hq : text.size = q at hhidden
  cases hhidden with
  | escaped he hin =>
    have hle := h.escape_le he
    rw [hstop, Option.getD_none] at hle
    exact absurd hin.2 (by omega)
  | begins ht =>
    obtain ⟨n, hrun, hodd⟩ := ht.odd
    obtain ⟨start, he, hone⟩ := hrun.exists_last hodd
    rw [← hq] at he hone ⊢
    obtain ⟨before, c, htext, rfl⟩ := hone.last
    exact ⟨before, c, htext, he⟩
  | inside ht hlo hhi =>
    have hle := (Pattern.le_of_findAt ht.closes).2.2
    omega

end Closing

/-! ## Any grammar

  For any rule whose closing pattern has a match at the end of every line, with an escape or without
  one. -/

section AnyGrammar

variable {g : Grammar} {text : Text} {entry : LineState} {t : Nat} {r : BlockRule} {d : Delimiters}

/-- A block expression that a line leaves open was searched for its end in vain. -/
theorem meets_of_exit (h : (highlight g text entry).exit = .inBlockExpression t) :
    ∃ r d inner, g.blockExpressions[t]? = some r ∧ r.delimiters = some d ∧
      Plain.Meets g text entry (.inBlockExpression t) r inner ∧ inner ≤ text.size ∧
        (r.findEnd text inner).stop = none := by
  rw [highlight, Scan.exclusive_eq, Plain.exit_eq_iff (by simp)] at h
  obtain ⟨r, inner, hmeets, hstop⟩ := h
  obtain ⟨hleft, start, hbegins⟩ := hmeets.begins (by simp)
  obtain ⟨d, hd⟩ := Option.isSome_iff_exists.mp hbegins.isEnabled
  exact ⟨r, d, inner, hleft, hd, hmeets, hbegins.le.2, hstop⟩

/-- If the end of the line closes it, the last character of the line is an escape by itself. -/
theorem escaped_of_exit (hr : g.blockExpressions[t]? = some r) (hd : r.delimiters = some d)
    (hend : d.closing.ReachesEnd) (h : (highlight g text entry).exit = .inBlockExpression t) :
    ∃ inner, Plain.Meets g text entry (.inBlockExpression t) r inner ∧
      (r.findEnd text inner).stop = none ∧ Closing.Finds d text inner (r.findEnd text inner) ∧
        ∃ (before : Text) (c : Char), text = before ++ [c] ∧
          (before.size, text.size) ∈ (r.findEnd text inner).escapes := by
  obtain ⟨r', d', inner, hr', hd', hmeets, hinner, hstop⟩ := meets_of_exit h
  obtain rfl := Option.some.inj (hr.symm.trans hr')
  obtain rfl := Option.some.inj (hd.symm.trans hd')
  have hfinds := Closing.finds_findEnd hd text inner
  exact ⟨inner, hmeets, hstop, hfinds, hfinds.escaped_end hinner hend hstop⟩

/-- Without escapes it is closed on every line. -/
theorem exit_ne_of_no_escape (hr : g.blockExpressions[t]? = some r) (hd : r.delimiters = some d)
    (hend : d.closing.ReachesEnd) (hescape : d.escape = none) :
    (highlight g text entry).exit ≠ .inBlockExpression t := by
  intro h
  obtain ⟨inner, -, -, hfinds, before, c, -, he⟩ := escaped_of_exit hr hd hend h
  rw [hfinds.escapes_eq_nil hescape] at he
  exact absurd he List.not_mem_nil

end AnyGrammar

/-! ## Built-in grammars

  The same for rules as the built-in definitions declare them.  What is loaded for a language is the
  merge of its line, so the rule is read off there. -/

namespace Definition

variable {b : BlockDeclaration} {d : Delimiters}

/-- A block expression of merged definitions has the delimiters of the declaration that decides
    it. -/
theorem declared_of_merged {limits : Limits} {ds : List Definition} {t : Nat} {r : BlockRule}
    (hr : (merged limits ds).blockExpressions[t]? = some r) (hd : r.delimiters = some d) :
    ∃ b, deciding (·.slot) (·.blockExpressions) t ds = some b ∧ usableBlock b.block = some d := by
  obtain ⟨i, hi, rfl⟩ := Option.map_eq_some_iff.mp ((List.getElem?_map ..).symm.trans hr)
  obtain ⟨hlt, rfl⟩ := List.getElem?_eq_some_iff.mp hi
  rw [List.getElem_range] at hd
  exact Option.bind_eq_some_iff.mp hd

/-- A rule that is accepted closes with the pattern that it declares. -/
theorem closing_of_usableBlock {s : String} (h : usableBlock b = some d)
    (hs : b.closing = some (.string s)) : Pattern.compile s = .ok d.closing := by
  have hclosing := (usableBlock_eq_some_iff.mp h).2.1
  rw [hs, Option.bind_some, usable_string] at hclosing
  exact (usableText_eq_some_iff.mp hclosing).2

/-- It has the escape that it declares, if any. -/
theorem escape_of_usableBlock (h : usableBlock b = some d) :
    usableEscape b.escape = some d.escape :=
  (usableBlock_eq_some_iff.mp h).2.2

theorem compile_of_usableEscape {s : String} {p : Pattern}
    (h : usableEscape (some (.string s)) = some (some p)) : Pattern.compile s = .ok p := by
  have hs := usableEscape_eq_some_some_iff.mp h
  rw [Option.bind_some, usable_string] at hs
  exact (usableText_eq_some_iff.mp hs).2

end Definition

namespace Workspace

open Grammar.Builtin (all c cpp python)
open GrammarLibrary (Chain)

variable {text : Text} {entry : LineState}

/-- The built-in definitions are found under their names. -/
theorem stock_find (config : Config) (files : FileSystem) {e : String × Definition} (he : e ∈ all) :
    (stock config files).find e.1 = .ok e.2 :=
  GrammarLibrary.find_of_registered (registered?_stock he)

/-- A built-in definition is loaded with its parents. -/
theorem stock_merged (config : Config) (files : FileSystem) {e : String × Definition}
    {ds : List Definition} (he : e ∈ all)
    (hchain : Chain (stock config files) e.2 ds) :
    ((stock config files).loadNamed e.1).1 = .ok (Definition.merged config.limits ds) := by
  obtain ⟨hconfig, hempty, -⟩ := stock_spec config files
  obtain ⟨g, hg⟩ := stock_loads (.refl (stock config files)) he
  have hload : ((GrammarLibrary.Request.name e.1).load (stock config files)).1 = .ok g := hg
  obtain ⟨d, ds', hsource, hchain', rfl⟩ := GrammarLibrary.load_chain hempty hload
  rw [GrammarLibrary.Request.source, stock_find config files he] at hsource
  obtain rfl := Except.ok.inj hsource
  rw [hg, hchain.unique hchain', hconfig]

/-- The closing delimiter `'|$` closes at the end of every line. -/
theorem reachesEnd_quote {p : Pattern} (h : Pattern.compile "'|$" = .ok p) : p.ReachesEnd := by
  have hparse : (Notation.parse "'|$".toList).toOption
      = some (.alt (.set (.singleton '\'')) (.look .textEnd)) := by decide +kernel
  exact Pattern.reachesEnd_of_anchored (toOption_eq_some_iff.mp hparse) (by decide) h

/-- What the default escape matches begins with a backslash. -/
theorem backslash_of_escape {p : Pattern} {before : Text} {c : Char} {stop : Nat}
    (h : Pattern.compile Grammar.defaultEscape = .ok p)
    (hmatch : p.Matches (before ++ [c]) (before.size, stop)) : c = '\\' := by
  have hparse : (Notation.parse Grammar.defaultEscape.toList).toOption
      = some (.cat (.set (.singleton '\\'))
          (.group (.repetition (.set (CharSet.singleton '\n').complement) 0 (some 1) true))) := by
    decide +kernel
  have hmem := hmatch.head_mem (toOption_eq_some_iff.mp hparse) h rfl
  rw [CharSet.contains, CharSet.singleton, CharSet.hasCode, CharSet.hasCode] at hmem
  have hcode : c.toNat = '\\'.toNat := by
    split at hmem
    · exact absurd hmem (by simp)
    · split at hmem
      · omega
      · exact absurd hmem (by simp)
  exact Char.toNat_inj.mp hcode

/-- A block expression without escapes that ends at `'|$` is closed on every line. -/
theorem exit_ne_of_merged {limits : Limits} {ds : List Definition} {t : Nat} {b : NumberedBlock}
    (hb : Definition.deciding (·.slot) (·.blockExpressions) t ds = some b)
    (hclosing : b.block.closing = some (.string "'|$")) (hescape : b.block.escape = none) :
    (highlight (Definition.merged limits ds) text entry).exit ≠ .inBlockExpression t := by
  intro h
  obtain ⟨r, d, inner, hr, hd, -⟩ := meets_of_exit h
  obtain ⟨b', hb', hblock⟩ := Definition.declared_of_merged hr hd
  obtain rfl := Option.some.inj (hb.symm.trans hb')
  have hnone : d.escape = none := by
    have hescape' := Definition.escape_of_usableBlock hblock
    rw [hescape] at hescape'
    exact (Option.some.inj hescape').symm
  have hend := reachesEnd_quote (Definition.closing_of_usableBlock hblock hclosing)
  exact exit_ne_of_no_escape hr hd hend hnone h

/-- One in which a backslash hides the next character stays open only behind a backslash. -/
theorem backslash_of_merged {limits : Limits} {ds : List Definition} {t : Nat} {b : NumberedBlock}
    (hb : Definition.deciding (·.slot) (·.blockExpressions) t ds = some b)
    (hclosing : b.block.closing = some (.string "'|$"))
    (hescape : b.block.escape = some (.string Grammar.defaultEscape))
    (h : (highlight (Definition.merged limits ds) text entry).exit = .inBlockExpression t) :
    ∃ before : Text, text = before ++ ['\\'] := by
  obtain ⟨r, d, inner, hr, hd, -⟩ := meets_of_exit h
  obtain ⟨b', hb', hblock⟩ := Definition.declared_of_merged hr hd
  obtain rfl := Option.some.inj (hb.symm.trans hb')
  have hend := reachesEnd_quote (Definition.closing_of_usableBlock hblock hclosing)
  obtain ⟨inner, -, -, hfinds, before, c, rfl, he⟩ := escaped_of_exit hr hd hend h
  obtain ⟨p, hp, hmatch⟩ := (hfinds.recorded _ he).escapes
  have hescape' := Definition.escape_of_usableBlock hblock
  rw [hescape, hp] at hescape'
  rw [backslash_of_escape (Definition.compile_of_usableEscape hescape') hmatch]
  exact ⟨before, rfl⟩

theorem c_mem : ("c", c) ∈ all := by simp [all]

theorem cpp_mem : ("c++", cpp) ∈ all := by simp [all]

theorem python_mem : ("python", python) ∈ all := by simp [all]

end Workspace

/-- **What the end of the line closes does not leak into the next one.**  If the closing delimiter
    of a block expression has a match at or after every offset of every text, then without escapes
    no line leaves the block expression open, and with escapes only a line does whose last character
    is by itself an escape that the search for the end has recorded.  The built-in grammars of C and
    C++ have the former, that of Python the latter, where the character is a backslash. -/
theorem exit_lineEnd (config : Config) (files : FileSystem) :
    (∀ (g : Grammar) (t : Nat) (r : BlockRule) (d : Delimiters),
      g.blockExpressions[t]? = some r → r.delimiters = some d → d.closing.ReachesEnd →
        ∀ (text : Text) (entry : LineState),
          (d.escape = none → (highlight g text entry).exit ≠ .inBlockExpression t) ∧
          ((highlight g text entry).exit = .inBlockExpression t →
            ∃ inner, Plain.Meets g text entry (.inBlockExpression t) r inner ∧
              (r.findEnd text inner).stop = none ∧
                ∃ (before : Text) (c : Char), text = before ++ [c] ∧
                  (before.size, text.size) ∈ (r.findEnd text inner).escapes)) ∧
    (∀ name ∈ ["c", "c++"], ∃ g, ((Workspace.stock config files).loadNamed name).1 = .ok g ∧
      ∀ text entry, (highlight g text entry).exit ≠ .inBlockExpression 1) ∧
    ∃ g, ((Workspace.stock config files).loadNamed "python").1 = .ok g ∧
      ∀ text entry, (highlight g text entry).exit = .inBlockExpression 2 →
        ∃ before : Text, text = before ++ ['\\'] := by
  refine ⟨fun g t r d hr hd hend text entry => ⟨exit_ne_of_no_escape hr hd hend, fun h => ?_⟩,
    fun name hname => ?_, ?_⟩
  · obtain ⟨inner, hmeets, hstop, -, hlast⟩ := escaped_of_exit hr hd hend h
    exact ⟨inner, hmeets, hstop, hlast⟩
  · rcases List.mem_cons.mp hname with rfl | hname
    · have hload := Workspace.stock_merged config files Workspace.c_mem (.root rfl)
      exact ⟨_, hload, fun text entry => Workspace.exit_ne_of_merged rfl rfl rfl⟩
    · obtain rfl := List.mem_singleton.mp hname
      have hbase := Workspace.stock_find config files Workspace.c_mem
      have hload := Workspace.stock_merged config files Workspace.cpp_mem
        (.derived rfl hbase (.root rfl))
      exact ⟨_, hload, fun text entry => Workspace.exit_ne_of_merged rfl rfl rfl⟩
  · have hload := Workspace.stock_merged config files Workspace.python_mem (.root rfl)
    exact ⟨_, hload, fun text entry => Workspace.backslash_of_merged rfl rfl rfl⟩

end Highlight
