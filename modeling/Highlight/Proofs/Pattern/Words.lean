/-
  Patterns of words.

  The pattern of a list of words asks for one of them between two edges of words.  Where the words
  consist of word characters only, this is to say that a maximal run of word characters is one of
  them, and it does not matter in which order they are listed or whether one begins another.

  1. **Runs** — the crux: two runs of a line are the same or apart (`Run.eq_or_apart`).

  2. **Reading the pattern** — words need no escapes, and their characters are read as themselves
     (`branches_word`, `branches_words`), so the expression of the pattern is known
     (`parse_wordsPattern`).

  3. **What it reads** — a word of the list between two edges of words (`reads_wordsRegex`), which
     is a run (`run_iff`).

  4. **All matches** — what a search finds is a run, and no run is passed over by finding another
     one (`OfWords.successive`).

  Main result: `Pattern.OfWords.findAll`.
-/
import Highlight.Grammar.Definition
import Highlight.Proofs.Pattern.Readings

namespace Highlight

open Text (Spot)

/-! ## Runs

  No word character stands beside a run.  Two runs that overlap without being the same would have a
  word character of one beside the other. -/

namespace Text

/-- A text of word characters only. -/
def AllWord (text : Text) : Prop := ∀ c ∈ text, Unicode.isWord c = true

instance (text : Text) : Decidable (AllWord text) :=
  decidable_of_iff (text.all Unicode.isWord = true) List.all_eq_true

theorem allWord_cons {c : Char} {cs : Text} :
    AllWord (c :: cs) ↔ Unicode.isWord c = true ∧ AllWord cs := List.forall_mem_cons

/-- Between two spots lies a word, and no word character stands beside it. -/
structure Run (s : Spot) (word : Text) (t : Spot) : Prop where
  passes : s.Passes word t
  nonempty : word ≠ []
  allWord : AllWord word
  before : Look.isWordAt true s.before.getLast? = false
  after : Look.isWordAt true t.after.head? = false

/-- At these offsets of a line there is a maximal run of word characters, which is this word. -/
def IsRun (line word : Text) (m : Nat × Nat) : Prop :=
  ∃ s t : Spot, s.text = line ∧ m = (s.offset, t.offset) ∧ Run s word t

variable {s t s' t' : Spot} {w w' line : Text} {m m' : Nat × Nat}

/-- A run has some length. -/
theorem Run.offset_lt (h : Run s w t) : s.offset < t.offset := by
  obtain ⟨c, w, rfl⟩ := List.exists_cons_of_ne_nil h.nonempty
  have hc := Char.utf8Size_pos c
  rw [h.passes.offset_eq, size_cons]
  omega

/-- Of two runs from the same spot none goes on behind the other. -/
theorem Run.end_unique (h : Run s w t) (h' : Run s w' t') (hle : t.offset ≤ t'.offset) :
    t = t' := by
  have htext : t.text = t'.text := h.passes.text_eq.trans h'.passes.text_eq.symm
  obtain ⟨mid, hmid⟩ := Spot.exists_passes htext hle
  rcases mid with _ | ⟨c, mid⟩
  · exact (Spot.passes_nil.mp hmid).symm
  · -- the longer run has a word character where the shorter one ends
    have hw' : w' = w ++ c :: mid := h'.passes.mid_unique (h.passes.trans hmid)
    have hc : Unicode.isWord c = true := h'.allWord c (by simp [hw'])
    have hafter := h.after
    rw [hmid.1, List.cons_append, List.head?_cons] at hafter
    exact absurd (hc.symm.trans hafter) (by simp)

/-- **Two runs of a line are the same or apart.** -/
theorem Run.eq_or_apart (h : Run s w t) (h' : Run s' w' t') (htext : s.text = s'.text)
    (hle : s.offset ≤ s'.offset) : (s = s' ∧ t = t') ∨ t.offset < s'.offset := by
  rcases Nat.lt_or_ge t.offset s'.offset with hlt | hge
  · exact .inr hlt
  · have htext' : s'.text = t.text := htext.symm.trans h.passes.text_eq.symm
    obtain ⟨mid, hmid⟩ := Spot.exists_passes htext hle
    obtain ⟨rest, hrest⟩ := Spot.exists_passes htext' hge
    rcases List.eq_nil_or_concat' mid with rfl | ⟨mid, c, rfl⟩
    · obtain rfl : s' = s := Spot.passes_nil.mp hmid
      refine .inl ⟨rfl, ?_⟩
      rcases Nat.le_total t.offset t'.offset with hle' | hle'
      · exact h.end_unique h' hle'
      · exact (h'.end_unique h hle').symm
    · -- the later run begins behind a character of the earlier one
      have hw : w = (mid ++ [c]) ++ rest := h.passes.mid_unique (hmid.trans hrest)
      have hc : Unicode.isWord c = true := h.allWord c (by simp [hw])
      have hbefore := h'.before
      rw [hmid.2, ← List.append_assoc, List.getLast?_concat] at hbefore
      exact absurd (hc.symm.trans hbefore) (by simp)

theorem IsRun.lt (h : IsRun line w m) : m.1 < m.2 := by
  obtain ⟨s, t, -, rfl, hrun⟩ := h
  exact hrun.offset_lt

/-- Of two runs of a line the one that begins first ends before the other begins. -/
theorem IsRun.eq_or_apart (h : IsRun line w m) (h' : IsRun line w' m') (hle : m.1 ≤ m'.1) :
    m = m' ∨ m.2 < m'.1 := by
  obtain ⟨s, t, htext, rfl, hrun⟩ := h
  obtain ⟨s', t', htext', rfl, hrun'⟩ := h'
  rcases hrun.eq_or_apart hrun' (htext.trans htext'.symm) hle with ⟨rfl, rfl⟩ | hlt
  · exact .inl rfl
  · exact .inr hlt

end Text

open Text (AllWord allWord_cons Run IsRun)

namespace Notation

/-! ## Reading the pattern

  The pattern is a text, so the parser has to be followed through it: the edges, the group, the bars
  and the words in between.  The lemmas say what `branches` makes of each of these in front of any
  rest. -/

/-- No character with a meaning in the notation is a word character. -/
theorem isMeta_of_isWord {c : Char} (h : Unicode.isWord c = true) : isMeta c = false := by
  have hmeta : ['\\', '.', '+', '*', '?', '(', ')', '|', '[', ']', '\x7b', '\x7d', '^', '$', '#',
      '&', '-', '~'].all (fun c => !Unicode.isWord c) = true := by decide +kernel
  rw [Bool.eq_false_iff]
  intro hc
  have hnot := List.all_eq_true.mp hmeta c (List.contains_iff_mem.mp hc)
  rw [h] at hnot
  exact Bool.false_ne_true hnot

/-- A word of word characters is escaped as itself. -/
theorem escape_of_allWord {w : String} (h : AllWord w.toList) : Pattern.escape w = w := by
  have hsame : ∀ {cs : Text}, AllWord cs →
      (cs.flatMap fun c => if isMeta c then ['\\', c] else [c]) = cs := by
    intro cs hcs
    induction cs with
    | nil => rfl
    | cons c cs ih =>
      obtain ⟨hc, hrest⟩ := allWord_cons.mp hcs
      rw [List.flatMap_cons, ih hrest, isMeta_of_isWord hc]
      rfl
  rw [Pattern.escape, hsame h, String.ofList_toList]

/-- The node of a character that stands for itself. -/
def literal (c : Char) : Node := ⟨.set (.singleton c), 0⟩

/-- The node of a word. -/
def wordNode (w : Text) : Node := Node.sequence (w.map literal)

variable {fuel : Nat} {names : List String} {done : List Node} {pieces : List Piece} {c : Char}
  {w rest : Text}

/-- A word character is read as itself. -/
theorem branches_literal (h : Unicode.isWord c = true) :
    branches (fuel + 1) {} names done pieces (c :: rest)
      = branches fuel {} names done (.node (literal c) :: pieces) rest := by
  have hne : ∀ m, isMeta m = true → c ≠ m := by
    rintro m hm rfl
    exact absurd (hm.symm.trans (isMeta_of_isWord h)) (by simp)
  have hprimitive : primitive {} c rest = .ok (literal c, rest) := by
    rw [primitive, if_neg (hne '\\' rfl), if_neg (hne '.' rfl), if_neg (hne '^' rfl),
      if_neg (hne '$' rfl)]
    rfl
  rw [branches, show blanks {} (c :: rest) = c :: rest from rfl]
  simp only [hne ')' rfl, hne '|' rfl, hne '(' rfl, hne '[' rfl, hne '?' rfl, hne '*' rfl,
    hne '+' rfl, hne '\x7b' rfl, if_false, hprimitive]
  rfl

/-- A word is read character by character. -/
theorem branches_word (h : AllWord w) :
    branches (w.length + fuel) {} names done pieces (w ++ rest)
      = branches fuel {} names done ((w.map (Piece.node ∘ literal)).reverse ++ pieces) rest := by
  induction w generalizing pieces with
  | nil => rw [List.length_nil, Nat.zero_add]; rfl
  | cons c w ih =>
    obtain ⟨hc, hw⟩ := allWord_cons.mp h
    rw [List.length_cons, Nat.succ_add, List.cons_append, branches_literal hc, ih hw,
      List.map_cons, List.reverse_cons, List.append_assoc]
    rfl

/-- The characters of a word, put together, are the expression of the word. -/
theorem alternative_word (w : Text) :
    alternative (w.map (Piece.node ∘ literal)).reverse = wordNode w := by
  rw [alternative, List.reverse_reverse, List.map_map, wordNode]
  rfl

/-- A bar ends one alternative and begins the next. -/
theorem branches_bar :
    branches (fuel + 1) {} names done pieces ('|' :: rest)
      = branches fuel {} names (alternative pieces :: done) [] rest := rfl

/-- A bracket ends the last alternative, and the group. -/
theorem branches_close :
    branches (fuel + 1) {} names done pieces (')' :: rest)
      = .ok (Node.alternatives (alternative pieces :: done).reverse, names, ')' :: rest) := rfl

/-- **Words between bars are alternatives**, each read as itself. -/
theorem branches_words {ws : List Text} (hne : ws ≠ []) (h : ∀ w ∈ ws, AllWord w)
    (hfuel : (List.intercalate ['|'] ws).length < fuel) :
    branches fuel {} names done [] (List.intercalate ['|'] ws ++ ')' :: rest)
      = .ok (Node.alternatives (done.reverse ++ ws.map wordNode), names, ')' :: rest) := by
  induction ws generalizing fuel done with
  | nil => exact absurd rfl hne
  | cons w ws ih =>
    obtain ⟨hw, hws⟩ := List.forall_mem_cons.mp h
    -- the last word is followed by the bracket, any other by a bar
    cases ws with
    | nil =>
      rw [List.intercalate_singleton] at hfuel ⊢
      obtain ⟨fuel, rfl⟩ := Nat.exists_eq_add_of_lt hfuel
      rw [Nat.add_assoc, branches_word hw, branches_close, List.append_nil, alternative_word,
        List.reverse_cons]
      rfl
    | cons w' ws =>
      rw [List.intercalate_cons_cons] at hfuel ⊢
      simp only [List.length_append, List.length_singleton] at hfuel
      obtain ⟨fuel, rfl⟩ := Nat.exists_eq_add_of_le (show w.length + 1 ≤ fuel by omega)
      rw [Nat.add_assoc, Nat.add_comm 1, List.append_assoc, List.append_assoc, branches_word hw,
        List.singleton_append, branches_bar, List.append_nil, alternative_word,
        ih (List.cons_ne_nil w' ws) hws (by omega), List.reverse_cons, List.append_assoc]
      rfl

/-- The node of an edge of a word. -/
def edge : Node := ⟨.look (.word .boundary true), 0⟩

/-- The escape `\b` is read as an edge of words. -/
theorem branches_edge (h : rest.head? ≠ some '\x7b') :
    branches (fuel + 1) {} names done pieces ('\\' :: 'b' :: rest)
      = branches fuel {} names done (.node edge :: pieces) rest := by
  have hescape : wordEscape {} rest = .ok (.look (.word .boundary true), rest) := by
    unfold wordEscape
    split
    · exact absurd rfl h
    · rfl
  have hprimitive : primitive {} '\\' ('b' :: rest) = .ok (edge, rest) := by
    have hletter : escape {} ('b' :: rest) = wordEscape {} rest := rfl
    rw [primitive, if_pos rfl, hletter, hescape]
    rfl
  rw [branches]
  show (primitive {} '\\' ('b' :: rest) >>= _) = _
  rw [hprimitive]
  rfl

/-- A group is read as what stands in it, one level deeper. -/
theorem branches_group {node : Node} {inner : Text}
    (h : branches fuel {} names [] [] inner = .ok (node, names, ')' :: rest)) :
    branches (fuel + 1) {} names done pieces ('(' :: '?' :: ':' :: inner)
      = branches fuel {} names done (.node ⟨node.regex, 1 + node.height⟩ :: pieces) rest := by
  have hopening : opening {} names ('?' :: ':' :: inner) = .ok (.group {} none false, inner) := rfl
  rw [branches]
  show (opening {} names ('?' :: ':' :: inner) >>= _) = _
  rw [hopening]
  show (branches fuel {} names [] [] inner >>= _) = _
  rw [h]
  rfl

/-- The expression of the pattern of some words. -/
def wordsRegex (ws : List Text) : Regex :=
  .concat [edge.regex, (Node.alternatives (ws.map wordNode)).regex, edge.regex]

/-- The text of the pattern: the words with bars between them, in a group between two edges. -/
theorem toList_wordsPattern {words : List String} (h : ∀ w ∈ words, AllWord w.toList) :
    (Definition.wordsPattern words).toList
      = '\\' :: 'b' :: '(' :: '?' :: ':' ::
          (List.intercalate ['|'] (words.map String.toList) ++ [')', '\\', 'b']) := by
  have hescape : words.map Pattern.escape = words := by
    rw [List.map_congr_left fun w hw => escape_of_allWord (h w hw), List.map_id']
  rw [Definition.wordsPattern, hescape, String.toList_append, String.toList_append,
    String.toList_intercalate]
  rfl

/-- **The pattern of some words is read as one of them between two edges**, if it is not refused
    for its nesting. -/
theorem parse_wordsPattern {words : List String} {r : Regex} (hne : words ≠ [])
    (h : ∀ w ∈ words, AllWord w.toList)
    (hparse : parse (Definition.wordsPattern words).toList = .ok r) :
    r = wordsRegex (words.map String.toList) := by
  have hlists : ∀ w ∈ words.map String.toList, AllWord w := by simpa using h
  have hbranches : ∃ height,
      branches ((Definition.wordsPattern words).toList.length + 1) {} [] [] []
          (Definition.wordsPattern words).toList
        = .ok (⟨wordsRegex (words.map String.toList), height⟩, [], []) := by
    rw [toList_wordsPattern h]
    simp only [List.length_cons, List.length_append, List.length_nil]
    rw [branches_edge (by simp),
      branches_group (branches_words (by simpa using hne) hlists (by omega)),
      branches_edge (by simp)]
    exact ⟨_, rfl⟩
  obtain ⟨height, hbranches⟩ := hbranches
  rw [parse, hbranches] at hparse
  simp only [bind, Except.bind] at hparse
  split at hparse
  · exact (Except.ok.inj hparse).symm
  · exact absurd hparse (by simp [throw, throwThe, MonadExceptOf.throw])

/-! ## What it reads

  From the nodes of the pattern to its readings.  An edge reads nothing, and holds where just one of
  the characters beside it is a word character; between two of them a word is a run. -/

open Regex (ReadsAll)

variable {s t : Spot} {ns : List Node} {ws : List Text}

theorem reads_nodeSequence :
    (Node.sequence ns).regex.Reads s t ↔ ReadsAll (ns.map Node.regex) s t := by
  unfold Node.sequence
  split
  · exact Regex.readsAll_singleton.symm
  · exact Regex.reads_concat

/-- Nodes that are alternatives read what one of them reads. -/
theorem reads_nodeAlternatives (htidy : ∀ n ∈ ns, n.regex.Tidy) :
    (Node.alternatives ns).regex.Reads s t ↔ ∃ n ∈ ns, n.regex.Reads s t := by
  unfold Node.alternatives
  split
  · simp
  · rw [Regex.reads_choice (by simpa using htidy)]
    simp

/-- A word is read where its characters follow. -/
theorem reads_wordNode : (wordNode w).regex.Reads s t ↔ s.Passes w t := by
  rw [wordNode, reads_nodeSequence]
  induction w generalizing s with
  | nil => exact Spot.passes_nil.symm
  | cons c w ih =>
    have hfirst : ∀ u, (literal c).regex.Reads s u ↔ s.Passes [c] u := by
      intro u
      constructor
      · rintro ⟨c', hc, hpass⟩
        rw [← CharSet.contains_singleton.mp hc]
        exact hpass
      · exact fun hpass => ⟨c, CharSet.contains_singleton.mpr rfl, hpass⟩
    rw [Spot.passes_cons, List.map_cons, List.map_cons, ReadsAll]
    simp only [hfirst, ih]

theorem wordNode_tidy (w : Text) : (wordNode w).regex.Tidy := by
  have hliterals : ∀ r ∈ (w.map literal).map Node.regex, r.Tidy := by
    intro r hr
    simp only [List.map_map, List.mem_map] at hr
    obtain ⟨c, -, rfl⟩ := hr
    exact CharSet.singleton_sorted c
  unfold wordNode Node.sequence
  split
  · rename_i n hn
    exact hliterals _ (by rw [hn]; exact List.mem_singleton_self _)
  · refine Regex.tidy_sequence fun f hf => ?_
    obtain ⟨r, hr, hf⟩ := List.mem_flatMap.mp hf
    exact (hliterals r hr).factors f hf

/-- Between the characters beside a spot is an edge of a word. -/
def AtEdge (s : Spot) : Prop :=
  (Look.word .boundary true).holds s.before.getLast? s.after.head? = true

/-- **The pattern of some words reads one of them between two edges.** -/
theorem reads_wordsRegex :
    (wordsRegex ws).Reads s t ↔ AtEdge s ∧ AtEdge t ∧ ∃ w ∈ ws, s.Passes w t := by
  have hword : ∀ u, (Node.alternatives (ws.map wordNode)).regex.Reads s u
      ↔ ∃ w ∈ ws, s.Passes w u := by
    intro u
    rw [reads_nodeAlternatives (by simpa using fun w _ => wordNode_tidy w)]
    simp [reads_wordNode]
  rw [wordsRegex, Regex.reads_concat]
  constructor
  · rintro ⟨_, ⟨hs, rfl⟩, u, hu, _, ⟨ht, rfl⟩, rfl⟩
    exact ⟨hs, ht, (hword _).mp hu⟩
  · rintro ⟨hs, ht, hu⟩
    exact ⟨s, ⟨hs, rfl⟩, t, (hword t).mpr hu, t, ⟨ht, rfl⟩, rfl⟩

/-- Between edges a word of word characters is a run. -/
theorem run_iff (hne : w ≠ []) (hw : AllWord w) :
    Run s w t ↔ AtEdge s ∧ AtEdge t ∧ s.Passes w t := by
  have hedge : ∀ {s : Spot}, AtEdge s ↔
      Look.isWordAt true s.before.getLast? ≠ Look.isWordAt true s.after.head? := bne_iff_ne
  -- a passed word has a word character at either end, so there is none beyond the edges
  have hbegin : s.Passes w t → Look.isWordAt true s.after.head? = true := by
    intro hpass
    obtain ⟨c, cs, rfl⟩ := List.exists_cons_of_ne_nil hne
    rw [hpass.1]
    exact hw c List.mem_cons_self
  have hend : s.Passes w t → Look.isWordAt true t.before.getLast? = true := by
    intro hpass
    obtain ⟨cs, c, rfl⟩ := (List.eq_nil_or_concat' w).resolve_left hne
    rw [hpass.2, ← List.append_assoc, List.getLast?_concat]
    exact hw c (by simp)
  constructor
  · intro h
    refine ⟨hedge.mpr ?_, hedge.mpr ?_, h.passes⟩
    · rw [h.before, hbegin h.passes]
      exact Bool.false_ne_true
    · rw [h.after, hend h.passes]
      exact Bool.false_ne_true.symm
  · rintro ⟨hs, ht, hpass⟩
    refine ⟨hpass, hne, hw, ?_, ?_⟩
    · rw [hedge, hbegin hpass] at hs
      exact Bool.eq_false_iff.mpr hs
    · rw [hedge, hend hpass] at ht
      exact Bool.eq_false_iff.mpr (Ne.symm ht)

end Notation

/-! ## All matches of a line

  A search for all matches could go wrong by stopping inside a run, or by passing one over.  It
  never stops inside a run, for what is found is a run, and passes none over, for runs do not
  overlap. -/

namespace Pattern

variable {p : Pattern} {line : Text} {ws : List Text} {pos start stop : Nat} {last : Option Nat}
  {ms : List (Nat × Nat)}

/-- A program of some words, which consist of word characters. -/
structure OfWords (p : Pattern) (ws : List Text) : Prop where
  program : p.program = (Notation.wordsRegex ws).program
  words : ∀ w ∈ ws, w ≠ [] ∧ AllWord w

/-- What is found is a run. -/
theorem OfWords.isRun_of_findAt (hp : p.OfWords ws) (h : p.findAt line pos = some (start, stop)) :
    ∃ w ∈ ws, IsRun line w (start, stop) := by
  obtain ⟨s, t, htext, rfl, rfl, hreads⟩ := findAt_reads hp.program h
  obtain ⟨hs, ht, w, hw, hpass⟩ := Notation.reads_wordsRegex.mp hreads
  obtain ⟨hne, hall⟩ := hp.words w hw
  exact ⟨w, hw, s, t, htext, rfl, (Notation.run_iff hne hall).mpr ⟨hs, ht, hpass⟩⟩

/-- A run is found from every offset up to its beginning, unless an earlier one is. -/
theorem OfWords.findAt_of_isRun (hp : p.OfWords ws) {w : Text} (hw : w ∈ ws) {m : Nat × Nat}
    (h : IsRun line w m) (hpos : pos ≤ m.1) :
    ∃ start stop, p.findAt line pos = some (start, stop) ∧ start ≤ m.1 := by
  obtain ⟨s, t, rfl, rfl, hrun⟩ := h
  obtain ⟨hne, hall⟩ := hp.words w hw
  obtain ⟨hs, ht, hpass⟩ := (Notation.run_iff hne hall).mp hrun
  exact findAt_of_reads hp.program (Notation.reads_wordsRegex.mpr ⟨hs, ht, w, hw, hpass⟩) hpos

/-- The matches from an offset on are the runs from there on, in their order. -/
theorem OfWords.successive (hp : p.OfWords ws) (h : Successive p line pos last ms) :
    (∀ m, m ∈ ms ↔ pos ≤ m.1 ∧ ∃ w ∈ ws, IsRun line w m) ∧
      ms.Pairwise fun m m' => m.2 < m'.1 := by
  induction h with
  | @done pos last hnone =>
    refine ⟨fun m => ⟨fun hm => absurd hm List.not_mem_nil, ?_⟩, .nil⟩
    rintro ⟨hpos, w, hw, hrun⟩
    obtain ⟨start, stop, hsome, -⟩ := hp.findAt_of_isRun hw hrun hpos
    exact absurd (hnone.symm.trans hsome) (by simp)
  | @next pos last start stop later hsome hnew hlater ih =>
    obtain ⟨ihmem, ihpair⟩ := ih
    obtain ⟨w, hw, hrun⟩ := hp.isRun_of_findAt hsome
    have hpos : pos ≤ start := (le_of_findAt hsome).1
    have hlt : start < stop := hrun.lt
    refine ⟨fun m => ?_, List.pairwise_cons.mpr ⟨fun m hm => ?_, ihpair⟩⟩
    · rw [List.mem_cons, ihmem]
      constructor
      · rintro (rfl | ⟨hm, hrest⟩)
        · exact ⟨hpos, w, hw, hrun⟩
        · exact ⟨by omega, hrest⟩
      · rintro ⟨hm, w', hw', hrun'⟩
        obtain ⟨start', stop', hsome', hle⟩ := hp.findAt_of_isRun hw' hrun' hm
        obtain ⟨rfl, rfl⟩ := Prod.mk.inj (Option.some.inj (hsome.symm.trans hsome'))
        -- what is found begins no later than the run, so it is the run or ends before it
        rcases hrun.eq_or_apart hrun' hle with rfl | hapart
        · exact .inl rfl
        · exact .inr ⟨hapart.le, w', hw', hrun'⟩
    · obtain ⟨hm, w', -, hrun'⟩ := (ihmem m).mp hm
      rcases hrun.eq_or_apart hrun' (by omega) with rfl | hapart
      · omega
      · exact hapart
  | @skip pos stop ms hsome hms ih =>
    -- no run is empty
    obtain ⟨w, -, hrun⟩ := hp.isRun_of_findAt hsome
    exact absurd hrun.lt (Nat.lt_irrefl stop)

/-- **All matches of the words are the runs of the line that are one of them**, from left to
    right. -/
theorem OfWords.findAll (hp : p.OfWords ws) (line : Text) :
    (∀ m, m ∈ p.findAll line ↔ ∃ w ∈ ws, IsRun line w m) ∧
      (p.findAll line).Pairwise fun m m' => m.2 < m'.1 := by
  obtain ⟨hmem, hpair⟩ := hp.successive (successive_findAll p line)
  exact ⟨fun m => by rw [hmem, and_iff_right (Nat.zero_le _)], hpair⟩

/-- A pattern of words that consist of word characters is compiled to a program of them. -/
theorem ofWords_of_compile {words : List String} (hne : words ≠ [])
    (h : ∀ w ∈ words, w ≠ "" ∧ AllWord w.toList)
    (hcompile : compile (Definition.wordsPattern words) = .ok p) :
    p.OfWords (words.map String.toList) := by
  cases hparse : Notation.parse (Definition.wordsPattern words).toList with
  | error e =>
    rw [compile, hparse] at hcompile
    exact absurd hcompile (by simp)
  | ok r =>
    have hr := Notation.parse_wordsPattern hne (fun w hw => (h w hw).2) hparse
    refine ⟨by rw [program_of_compile hparse hcompile, hr], fun w hw => ?_⟩
    obtain ⟨s, hs, rfl⟩ := List.mem_map.mp hw
    exact ⟨fun hnil => (h s hs).1 (String.toList_eq_nil_iff.mp hnil), (h s hs).2⟩

example : ((compile (Definition.wordsPattern ["do", "done"])).toOption.map
    (·.findAll "do done undone".toList)) = some [(0, 2), (3, 7)] := by decide +kernel

end Pattern

end Highlight
