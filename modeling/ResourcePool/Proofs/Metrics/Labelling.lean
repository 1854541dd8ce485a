import Mathlib.Computability.RegularExpressions
import ResourcePool.Proofs.Metrics.Scraping

/-!
# Labels cannot be forged

The values of tags are arbitrary texts and may hold quotes, backslashes, braces and line feeds. An
exposition is read back line by line, and the labels of every sample come out as they went in:
nothing in a value ends the value, adds a label or begins a line.

* `Labels.namePattern` — label names as a regular expression; `Labels.isName_iff`.
* `Labels.valueOf?` — the label map of a pool, and `Labels.lookup_ofPool` its list.
* `Labels.value?`, `Labels.read?`, `ExpositionLine.read?` — the readers of a value, of labels and of
  a line.
* `Labels.value?_escaped` — unescaping undoes escaping, whatever follows the value.
* `Labels.read?_pairs` — labels are read back, whatever follows them.
* `labels_read_back` — **what is read is the label map**.
-/

namespace ResourcePool

namespace Labels

/-! ## Names -/

/-- One of some characters. -/
def anyOf (chars : List Char) : RegularExpression Char := (chars.map RegularExpression.char).sum

/-- The letters of a label name, and the underscore. -/
def nameLetters : List Char := "abcdefghijklmnopqrstuvwxyzABCDEFGHIJKLMNOPQRSTUVWXYZ_".toList

/-- **A label name**: `[a-zA-Z_][a-zA-Z0-9_]*`. -/
def namePattern : RegularExpression Char :=
  anyOf nameLetters * (anyOf (nameLetters ++ "0123456789".toList)).star

/-- A word that matches any of some characters is one of them. -/
theorem mem_matches_anyOf {chars word : List Char} :
    word ∈ (anyOf chars).matches' ↔ ∃ c ∈ chars, word = [c] := by
  induction chars with
  | nil =>
    have hempty : word ∉ (0 : Language Char) := Language.notMem_zero word
    simp [anyOf, RegularExpression.matches'_zero, hempty]
  | cons first rest ih =>
    have hsum : (anyOf (first :: rest)).matches' = {[first]} + (anyOf rest).matches' := by
      rw [anyOf, List.map_cons, List.sum_cons]
      rfl
    rw [hsum, Language.mem_add, ih]
    simp only [List.mem_cons, exists_eq_or_imp]
    exact Iff.rfl

/-- A repeated choice has all words of the given characters. -/
theorem mem_matches_star_anyOf {chars word : List Char} :
    word ∈ (anyOf chars).star.matches' ↔ ∀ c ∈ word, c ∈ chars := by
  rw [RegularExpression.matches'_star, Language.mem_kstar]
  constructor
  · rintro ⟨parts, rfl, hparts⟩ c hc
    obtain ⟨part, hpart, hc⟩ := List.mem_flatten.mp hc
    obtain ⟨only, honly, rfl⟩ := mem_matches_anyOf.mp (hparts part hpart)
    rw [List.mem_singleton.mp hc]
    exact honly
  · intro hall
    refine ⟨word.map fun c => [c], (List.flatMap_singleton' word).symm, ?_⟩
    intro part hpart
    obtain ⟨c, hc, rfl⟩ := List.mem_map.mp hpart
    exact mem_matches_anyOf.mpr ⟨c, hall c hc, rfl⟩

/-- All characters between two are in a list if the list has all code points between theirs. -/
theorem mem_of_between {chars : List Char} {first last c : Char}
    (all : ∀ n ∈ List.range' first.toNat (last.toNat + 1 - first.toNat), Char.ofNat n ∈ chars)
    (low : first.val ≤ c.val) (high : c.val ≤ last.val) : c ∈ chars := by
  have hlow : first.toNat ≤ c.toNat := UInt32.le_iff_toNat_le.mp low
  have hhigh : c.toNat ≤ last.toNat := UInt32.le_iff_toNat_le.mp high
  rw [← Char.ofNat_toNat c]
  apply all
  rw [List.mem_range'_1]
  omega

/-- The characters that a name can start with are those of the pattern. -/
theorem isNameStart_iff {c : Char} : isNameStart c = true ↔ c ∈ nameLetters := by
  constructor
  · intro h
    rcases Bool.or_eq_true_iff.mp h with halpha | hmark
    · rcases Bool.or_eq_true_iff.mp halpha with hupper | hlower
      · obtain ⟨hlow, hhigh⟩ := of_decide_eq_true hupper
        exact mem_of_between (by decide) hlow hhigh
      · obtain ⟨hlow, hhigh⟩ := Bool.and_eq_true_iff.mp hlower
        exact mem_of_between (by decide) (of_decide_eq_true hlow) (of_decide_eq_true hhigh)
    · rw [of_decide_eq_true hmark]
      decide
  · intro h
    have hall : nameLetters.all isNameStart = true := by decide
    exact List.all_eq_true.mp hall c h

/-- So are those that it can go on with. -/
theorem isNameChar_iff {c : Char} :
    isNameChar c = true ↔ c ∈ nameLetters ++ "0123456789".toList := by
  rw [isNameChar, Bool.or_eq_true, isNameStart_iff, List.mem_append]
  apply or_congr_right
  constructor
  · intro h
    obtain ⟨hlow, hhigh⟩ := Bool.and_eq_true_iff.mp h
    exact mem_of_between (by decide) (of_decide_eq_true hlow) (of_decide_eq_true hhigh)
  · intro h
    have hall : "0123456789".toList.all Char.isDigit = true := by decide
    exact List.all_eq_true.mp hall c h

/-- **What counts as a label name** is what the pattern describes. -/
theorem isName_iff {name : String} :
    isName name = true ↔ name.toList ∈ namePattern.matches' := by
  rw [namePattern, RegularExpression.matches'_mul, Language.mem_mul]
  unfold isName
  constructor
  · intro hname
    split at hname
    · cases hname
    · next first rest hlist =>
      obtain ⟨hfirst, hrest⟩ := Bool.and_eq_true_iff.mp hname
      refine ⟨[first], mem_matches_anyOf.mpr ⟨first, isNameStart_iff.mp hfirst, rfl⟩, rest, ?_,
        hlist.symm⟩
      apply mem_matches_star_anyOf.mpr
      intro c hc
      exact isNameChar_iff.mp (List.all_eq_true.mp hrest c hc)
  · rintro ⟨head, hhead, rest, hrest, hlist⟩
    obtain ⟨first, hfirst, rfl⟩ := mem_matches_anyOf.mp hhead
    rw [← hlist]
    apply Bool.and_eq_true_iff.mpr
    refine ⟨isNameStart_iff.mpr hfirst, List.all_eq_true.mpr ?_⟩
    intro c hc
    exact isNameChar_iff.mpr (mem_matches_star_anyOf.mp hrest c hc)

/-! ## The label map -/

/-- **The label map of a pool**: a tag has its value, and `pool` has the name of the pool unless a
tag is called that. -/
def valueOf? (pool : String) (tags : List (String × String)) (name : String) : Option String :=
  (tags.lookup name).or (if name = "pool" then some pool else none)

/-- In a list with no name twice an entry is what is found under its name. -/
theorem lookup_eq_some_iff {entries : List (String × String)}
    (distinct : (entries.map Prod.fst).Nodup) {name value : String} :
    entries.lookup name = some value ↔ (name, value) ∈ entries := by
  induction entries with
  | nil => simp
  | cons entry rest ih =>
    obtain ⟨first, found⟩ := entry
    obtain ⟨hfresh, hrest⟩ := List.nodup_cons.mp distinct
    by_cases hname : name = first
    · subst hname
      have hother : (name, value) ∉ rest := fun hmem => hfresh (List.mem_map.mpr ⟨_, hmem, rfl⟩)
      simp [List.lookup_cons_self, hother, eq_comm]
    · have hbeq : (name == first) = false := beq_eq_false_iff_ne.mpr hname
      simp [List.lookup_cons, hbeq, hname, ih hrest]

/-- Without a name twice the order of the labels makes no difference to a look-up. -/
theorem lookup_perm {entries others : List (String × String)} (same : entries.Perm others)
    (distinct : (entries.map Prod.fst).Nodup) (name : String) :
    entries.lookup name = others.lookup name := by
  apply Option.ext
  intro value
  rw [lookup_eq_some_iff distinct, lookup_eq_some_iff ((same.map _).nodup_iff.mp distinct),
    same.mem_iff]

section ofPool

variable {pool : String} {tags : List (String × String)}

/-- The labels of a pool before they are sorted. -/
theorem ofPool_perm (pool : String) (tags : List (String × String)) : (ofPool pool tags).Perm
    (if ∃ tag ∈ tags, tag.1 = "pool" then tags else ("pool", pool) :: tags) := by
  unfold ofPool
  simp only [List.any_eq_true, decide_eq_true_eq]
  exact List.mergeSort_perm _ _

/-- No label has its name twice, since a tag replaces the pool. -/
theorem names_nodup (distinct : (tags.map Prod.fst).Nodup) :
    ((ofPool pool tags).map Prod.fst).Nodup := by
  rw [((ofPool_perm pool tags).map Prod.fst).nodup_iff]
  split
  · exact distinct
  · next hnone =>
    refine List.nodup_cons.mpr ⟨?_, distinct⟩
    intro hmem
    obtain ⟨tag, htag, hname⟩ := List.mem_map.mp hmem
    exact hnone ⟨tag, htag, hname⟩

/-- Every label comes after those with smaller names. -/
theorem ofPool_sorted (distinct : (tags.map Prod.fst).Nodup) :
    (ofPool pool tags).Pairwise fun first second => first.1 < second.1 := by
  have hle : (ofPool pool tags).Pairwise fun first second => first.1 ≤ second.1 := by
    have htrans : ∀ a b c : String × String, decide (a.1 ≤ b.1) = true →
        decide (b.1 ≤ c.1) = true → decide (a.1 ≤ c.1) = true := by
      intro a b c hab hbc
      exact decide_eq_true (String.le_trans (of_decide_eq_true hab) (of_decide_eq_true hbc))
    have htotal : ∀ a b : String × String, (decide (a.1 ≤ b.1) || decide (b.1 ≤ a.1)) = true := by
      intro a b
      simpa using String.le_total a.1 b.1
    exact (List.pairwise_mergeSort htrans htotal _).imp of_decide_eq_true
  have hne : (ofPool pool tags).Pairwise fun first second => first.1 ≠ second.1 :=
    List.pairwise_map.mp (names_nodup distinct)
  exact (hle.and hne).imp fun h => Std.lt_of_le_of_ne h.1 h.2

/-- **The labels of a pool are its label map.** -/
theorem lookup_ofPool (distinct : (tags.map Prod.fst).Nodup) (name : String) :
    (ofPool pool tags).lookup name = valueOf? pool tags name := by
  rw [lookup_perm (ofPool_perm pool tags) (names_nodup distinct)]
  unfold valueOf?
  split
  · next htagged =>
    obtain ⟨tag, htag, hname⟩ := htagged
    by_cases hpool : name = "pool"
    · have hfound : tags.lookup name = some tag.2 := by
        rw [lookup_eq_some_iff distinct, hpool, ← hname]
        exact htag
      rw [hfound, Option.some_or]
    · rw [if_neg hpool, Option.or_none]
  · next huntagged =>
    by_cases hpool : name = "pool"
    · have hnone : tags.lookup name = none := by
        rw [List.lookup_eq_none_iff]
        intro tag htag
        rw [bne_iff_ne, hpool]
        exact fun heq => huntagged ⟨tag, htag, heq.symm⟩
      rw [hnone, Option.none_or, if_pos hpool, hpool]
      rfl
    · have hbeq : (name == "pool") = false := beq_eq_false_iff_ne.mpr hpool
      rw [List.lookup_cons, hbeq, if_neg hpool, Option.or_none]

end ofPool

/-! ## Reading labels -/

/-- Cuts a text at a mark: what comes before the mark, and what comes after it. -/
def cut? (mark : Char) : List Char → Option (List Char × List Char)
  | [] => none
  | c :: rest =>
    if c = mark then some ([], rest) else (cut? mark rest).map fun parts => (c :: parts.1, parts.2)

/-- Reads a value up to the quote that ends it, and gives what is left with it. The three escapes
are undone, and there is no other. -/
def value? : List Char → Option (List Char × List Char)
  | '"' :: rest => some ([], rest)
  | '\\' :: '\\' :: rest => (value? rest).map fun read => ('\\' :: read.1, read.2)
  | '\\' :: '"' :: rest => (value? rest).map fun read => ('"' :: read.1, read.2)
  | '\\' :: 'n' :: rest => (value? rest).map fun read => ('\n' :: read.1, read.2)
  | '\\' :: _ => none
  | c :: rest => (value? rest).map fun read => (c :: read.1, read.2)
  | [] => none

/-- Reads one label, and gives what is left with it. -/
def label? (chars : List Char) : Option ((String × String) × List Char) :=
  match cut? '=' chars with
  | some (name, '"' :: rest) =>
    (value? rest).map fun read => ((.ofList name, .ofList read.1), read.2)
  | _ => none

/-- A text is cut at the first mark. -/
theorem cut?_append {mark : Char} {before : List Char} (apart : mark ∉ before)
    (after : List Char) : cut? mark (before ++ mark :: after) = some (before, after) := by
  induction before with
  | nil => simp [cut?]
  | cons c rest ih =>
    have hc : c ≠ mark := fun heq => apart (heq ▸ List.mem_cons_self)
    have hrest := ih fun hmem => apart (List.mem_cons_of_mem c hmem)
    simp [cut?, hc, hrest]

/-- What is left after a cut is shorter. -/
theorem length_of_cut? {mark : Char} {chars before after : List Char}
    (cut : cut? mark chars = some (before, after)) : after.length < chars.length := by
  induction chars generalizing before with
  | nil => cases cut
  | cons c rest ih =>
    unfold cut? at cut
    split at cut
    · cases cut
      exact Nat.lt_succ_self _
    · obtain ⟨parts, hparts, heq⟩ := Option.map_eq_some_iff.mp cut
      cases heq
      exact Nat.lt_succ_of_lt (ih hparts)

/-- What is left after a value is shorter. -/
theorem length_of_value? {chars value left : List Char}
    (read : value? chars = some (value, left)) : left.length < chars.length := by
  fun_induction value? chars generalizing value with
  | case1 rest =>
    cases read
    exact Nat.lt_succ_self _
  | case2 rest ih | case3 rest ih | case4 rest ih =>
    obtain ⟨_, hrest, heq⟩ := Option.map_eq_some_iff.mp read
    cases heq
    exact Nat.lt_succ_of_lt (Nat.lt_succ_of_lt (ih hrest))
  | case5 => cases read
  | case6 c rest _ _ _ _ _ ih =>
    obtain ⟨_, hrest, heq⟩ := Option.map_eq_some_iff.mp read
    cases heq
    exact Nat.lt_succ_of_lt (ih hrest)
  | case7 => cases read

/-- What is left after a label is shorter. -/
theorem length_of_label? {chars left : List Char} {label : String × String}
    (read : label? chars = some (label, left)) : left.length < chars.length := by
  unfold label? at read
  split at read
  · next name rest hcut =>
    obtain ⟨_, hvalue, heq⟩ := Option.map_eq_some_iff.mp read
    cases heq
    have hrest := length_of_cut? hcut
    rw [List.length_cons] at hrest
    exact (length_of_value? hvalue).trans (Nat.lt_of_succ_lt hrest)
  · cases read

/-- Reads labels one after another up to the brace that ends them, and gives what is left with
them. -/
def read? (chars : List Char) : Option (Labels × List Char) :=
  match _h : label? chars with
  | some (label, ',' :: rest) => (read? rest).map fun read => (label :: read.1, read.2)
  | some (label, '\x7d' :: rest) => some ([label], rest)
  | _ => none
  termination_by chars.length
  decreasing_by
    have hlt := length_of_label? _h
    rw [List.length_cons] at hlt
    omega

/-- After a comma another label follows. -/
theorem read?_comma {chars rest : List Char} {label : String × String}
    (first : label? chars = some (label, ',' :: rest)) :
    read? chars = (read? rest).map fun read => (label :: read.1, read.2) := by
  rw [read?]
  split <;> simp_all

/-- A brace ends the labels. -/
theorem read?_brace {chars rest : List Char} {label : String × String}
    (last : label? chars = some (label, '\x7d' :: rest)) : read? chars = some ([label], rest) := by
  rw [read?]
  split <;> simp_all

/-- A character is read back from its escape. -/
theorem value?_escape (c : Char) (rest : List Char) :
    value? (escape c ++ rest) = (value? rest).map fun read => (c :: read.1, read.2) := by
  unfold escape
  split
  · rfl
  · rfl
  · rfl
  · next hbackslash hquote _ =>
    rw [List.singleton_append, value?]
    · exact hquote
    · exact fun _ heq _ => hbackslash heq
    · exact fun _ heq _ => hbackslash heq
    · exact fun _ heq _ => hbackslash heq
    · exact hbackslash

/-- **Unescaping undoes escaping**, and the value ends at its own quote, whatever is behind it. -/
theorem value?_escaped (chars rest : List Char) :
    value? (chars.flatMap escape ++ '"' :: rest) = some (chars, rest) := by
  induction chars with
  | nil => rfl
  | cons c others ih => rw [List.flatMap_cons, List.append_assoc, value?_escape, ih, Option.map_some]

/-- A label is read back, whatever is behind it. -/
theorem label?_pair {label : String × String} (valid : isName label.1 = true) (rest : List Char) :
    label? ((pair label).toList ++ rest) = some (label, rest) := by
  have hname := not_mem_name valid (by decide : isNameChar '=' = false)
  have hpair : (pair label).toList ++ rest =
      label.1.toList ++ '=' :: '"' :: (label.2.toList.flatMap escape ++ '"' :: rest) := by
    simp [pair]
  unfold label?
  rw [hpair, cut?_append hname]
  simp only [value?_escaped, Option.map_some, String.ofList_toList]

/-- Labels are read back from their text, by induction on the labels. -/
theorem read?_pairs {labels : Labels} (some_label : labels ≠ [])
    (valid : ∀ label ∈ labels, isName label.1 = true) (rest : List Char) :
    read? ([','].intercalate (labels.map fun label => (pair label).toList) ++ '\x7d' :: rest) =
      some (labels, rest) := by
  induction labels with
  | nil => exact absurd rfl some_label
  | cons label others ih =>
    have hlabel := label?_pair (valid label List.mem_cons_self)
    cases others with
    | nil =>
      have honly : [','].intercalate ([label].map fun label => (pair label).toList) =
          (pair label).toList := by simp [List.intercalate]
      rw [honly, read?_brace (hlabel _)]
    | cons next more =>
      have hrest := ih (List.cons_ne_nil next more) fun other hother =>
        valid other (List.mem_cons_of_mem label hother)
      have hfirst : [','].intercalate ((label :: next :: more).map fun label => (pair label).toList) =
          (pair label).toList ++ ',' ::
            [','].intercalate ((next :: more).map fun label => (pair label).toList) := by
        simp [List.intercalate]
      rw [hfirst, List.append_assoc, List.cons_append, read?_comma (hlabel _), hrest,
        Option.map_some]

/-- **Labels are read back** from behind the brace that opens them, whatever is behind the brace
that ends them. -/
theorem read?_block {labels : Labels} (some_label : labels ≠ [])
    (valid : ∀ label ∈ labels, isName label.1 = true) :
    ∃ inner, labels.block.toList = '\x7b' :: inner ∧
      ∀ rest, read? (inner ++ rest) = some (labels, rest) := by
  refine ⟨[','].intercalate (labels.map fun label => (pair label).toList) ++ ['\x7d'], ?_, ?_⟩
  · simp [block, String.toList_intercalate, Function.comp_def]
  · intro rest
    rw [List.append_assoc]
    exact read?_pairs some_label valid rest

end Labels

/-! ## Reading lines -/

/-- A line of an exposition. -/
inductive ExpositionLine where
  /-- What a family is about. -/
  | help (family text : String)
  /-- What the samples of a family measure. -/
  | kind (family kind : String)
  /-- A sample of a family, with its labels. -/
  | sample (family : String) (labels : Labels) (value : String)
  deriving DecidableEq, Repr

namespace ExpositionLine

open Labels (cut? cut?_append)

/-- Reads a line: a comment by the mark in front of it, and a sample by the brace in front of its
labels. -/
def read? : List Char → Option ExpositionLine
  | '#' :: ' ' :: 'H' :: 'E' :: 'L' :: 'P' :: ' ' :: rest =>
    (cut? ' ' rest).map fun parts => .help (.ofList parts.1) (.ofList parts.2)
  | '#' :: ' ' :: 'T' :: 'Y' :: 'P' :: 'E' :: ' ' :: rest =>
    (cut? ' ' rest).map fun parts => .kind (.ofList parts.1) (.ofList parts.2)
  | '#' :: _ => none
  | line =>
    match cut? '\x7b' line with
    | some (family, rest) =>
      match Labels.read? rest with
      | some (labels, ' ' :: value) => some (.sample (.ofList family) labels (.ofList value))
      | _ => none
    | none => none

/-- The lines of a family, with the given labels. -/
def ofFamily (metrics : Metrics) (labels : Labels) (family : Family) : List ExpositionLine :=
  [.help family.name family.help, .kind family.name family.kind.name,
    .sample family.name labels (family.kind.sample (metrics.get family.metric))]

variable {family : Family}

/-- A line of help is read back. -/
theorem read?_help (mem : family ∈ Family.all) :
    read? ("# HELP " ++ family.name ++ " " ++ family.help).toList =
      some (.help family.name family.help) := by
  obtain ⟨hspace, -⟩ := Family.name_plain family mem
  have hline : ("# HELP " ++ family.name ++ " " ++ family.help).toList =
      '#' :: ' ' :: 'H' :: 'E' :: 'L' :: 'P' :: ' ' ::
        (family.name.toList ++ ' ' :: family.help.toList) := by
    have hmark : "# HELP ".toList = ['#', ' ', 'H', 'E', 'L', 'P', ' '] := by decide
    simp [hmark]
  rw [hline, read?, cut?_append hspace, Option.map_some, String.ofList_toList,
    String.ofList_toList]

/-- So is a line with the kind of a family. -/
theorem read?_kind (mem : family ∈ Family.all) :
    read? ("# TYPE " ++ family.name ++ " " ++ family.kind.name).toList =
      some (.kind family.name family.kind.name) := by
  obtain ⟨hspace, -⟩ := Family.name_plain family mem
  have hline : ("# TYPE " ++ family.name ++ " " ++ family.kind.name).toList =
      '#' :: ' ' :: 'T' :: 'Y' :: 'P' :: 'E' :: ' ' ::
        (family.name.toList ++ ' ' :: family.kind.name.toList) := by
    have hmark : "# TYPE ".toList = ['#', ' ', 'T', 'Y', 'P', 'E', ' '] := by decide
    simp [hmark]
  rw [hline, read?, cut?_append hspace, Option.map_some, String.ofList_toList,
    String.ofList_toList]

/-- **A sample is read back** with its labels, whatever their values are. -/
theorem read?_sample (mem : family ∈ Family.all) {labels : Labels} (some_label : labels ≠ [])
    (valid : ∀ label ∈ labels, Labels.isName label.1 = true) (value : String) :
    read? (family.name ++ labels.block ++ " " ++ value).toList =
      some (.sample family.name labels value) := by
  obtain ⟨-, hbrace, hhead, -⟩ := Family.name_plain family mem
  obtain ⟨rest, hrest⟩ := List.head?_eq_some_iff.mp hhead
  obtain ⟨inner, hblock, hinner⟩ := Labels.read?_block some_label valid
  have hline : (family.name ++ labels.block ++ " " ++ value).toList =
      family.name.toList ++ '\x7b' :: (inner ++ ' ' :: value.toList) := by
    simp [hblock]
  have hcut := cut?_append hbrace (inner ++ ' ' :: value.toList)
  have hfamily : String.ofList ('k' :: rest) = family.name := by
    rw [← hrest, String.ofList_toList]
  rw [hrest, List.cons_append] at hline hcut
  rw [hline, read?]
  · simp only [hcut, hinner, hfamily, String.ofList_toList]
  -- no name begins like a comment
  all_goals simp

/-- All lines of an exposition are read back. -/
theorem map_read?_lines (metrics : Metrics) {labels : Labels} (some_label : labels ≠ [])
    (valid : ∀ label ∈ labels, Labels.isName label.1 = true) :
    ((Family.all.flatMap fun family => family.lines labels metrics).map String.toList).map read? =
      (Family.all.flatMap (ofFamily metrics labels)).map some := by
  rw [List.map_map, List.map_flatMap, List.map_flatMap]
  apply List.flatMap_congr
  intro family mem
  simp only [Family.lines, ofFamily, List.map_cons, List.map_nil, Function.comp_apply,
    read?_help mem, read?_kind mem, read?_sample mem some_label valid]

/-- The labels can be told from the lines. -/
theorem labels_eq_of_lines {metrics others : Metrics} {labels marks : Labels}
    (same : Family.all.flatMap (ofFamily metrics labels) =
      Family.all.flatMap (ofFamily others marks)) : labels = marks := by
  have hsample : (Family.all.flatMap (ofFamily metrics labels))[2]? =
      (Family.all.flatMap (ofFamily others marks))[2]? := by rw [same]
  exact (sample.inj (Option.some.inj hsample)).2.1

end ExpositionLine

/-! ## Expositions -/

section expositions

variable {pool : String} {tags : List (String × String)}

/-- There is always a label. -/
theorem Labels.ofPool_ne_nil : Labels.ofPool pool tags ≠ [] := by
  intro hnil
  have hperm := Labels.ofPool_perm pool tags
  rw [hnil, List.nil_perm] at hperm
  split at hperm
  · next htagged =>
    obtain ⟨tag, htag, -⟩ := htagged
    rw [hperm] at htag
    cases htag
  · cases hperm

/-- **What can be exposed**: a snapshot under tags with label names. -/
theorem Metrics.expose_eq_ok_iff (metrics : Metrics) :
    (∃ text, metrics.expose pool tags = .ok text) ↔
      ∀ tag ∈ tags, Labels.isName tag.1 = true := by
  constructor
  · rintro ⟨text, htext⟩ tag htag
    have hlabel : tag ∈ Labels.ofPool pool tags := by
      rw [(Labels.ofPool_perm pool tags).mem_iff]
      split
      · exact htag
      · exact List.mem_cons_of_mem _ htag
    unfold Metrics.expose at htext
    simp only at htext
    split at htext
    · cases htext
    · next hnone => simpa using List.find?_eq_none.mp hnone tag hlabel
  · intro valid
    obtain ⟨text, htext, -⟩ := metrics.splitOn_expose pool valid
    exact ⟨text, htext⟩

/-- **An exposition is read back line by line.** -/
theorem Metrics.read_lines {metrics : Metrics} {text : String}
    (exposed : metrics.expose pool tags = .ok text) :
    ∃ lines, text.toList.splitOn '\n' = lines ++ [[]] ∧ lines.map ExpositionLine.read? =
      (Family.all.flatMap (ExpositionLine.ofFamily metrics (Labels.ofPool pool tags))).map some := by
  have hvalid := metrics.expose_eq_ok_iff.mp ⟨text, exposed⟩
  obtain ⟨found, hfound, hsplit⟩ := metrics.splitOn_expose pool hvalid
  rw [exposed] at hfound
  cases hfound
  exact ⟨_, hsplit, ExpositionLine.map_read?_lines metrics Labels.ofPool_ne_nil
    (Labels.isName_ofPool hvalid)⟩

/-- **Labels cannot be forged.** A snapshot is exposed under a pool name and tags with any values
exactly if the names of the tags are label names. The text then has twelve times three lines, each
ended by a line feed: the help, the kind and one sample of every family. What is read as the labels
of the samples is sorted by name and is the label map of the pool, escapes undone; and so a text
that is the exposition of some snapshot under another pool name and other tags has the same label
map. -/
theorem labels_read_back (metrics : Metrics) (pool : String) {tags : List (String × String)}
    (distinct : (tags.map Prod.fst).Nodup) :
    ((∃ text, metrics.expose pool tags = .ok text) ↔
      ∀ tag ∈ tags, tag.1.toList ∈ Labels.namePattern.matches') ∧
    ∀ text, metrics.expose pool tags = .ok text →
      (∃ lines labels, text.toList.splitOn '\n' = lines ++ [[]] ∧ lines.length = 36 ∧
        lines.map ExpositionLine.read? =
          (Family.all.flatMap (ExpositionLine.ofFamily metrics labels)).map some ∧
        labels.Pairwise (fun first second => first.1 < second.1) ∧
        ∀ name, labels.lookup name = Labels.valueOf? pool tags name) ∧
      ∀ (others : Metrics) (owner : String) (marks : List (String × String)),
        (marks.map Prod.fst).Nodup → others.expose owner marks = .ok text →
          Labels.valueOf? owner marks = Labels.valueOf? pool tags := by
  refine ⟨?_, ?_⟩
  · rw [metrics.expose_eq_ok_iff]
    exact forall₂_congr fun tag _ => Labels.isName_iff
  · intro text htext
    obtain ⟨lines, hsplit, hread⟩ := Metrics.read_lines htext
    refine ⟨⟨lines, Labels.ofPool pool tags, hsplit, ?_, hread, Labels.ofPool_sorted distinct,
      Labels.lookup_ofPool distinct⟩, ?_⟩
    · have hlength := congrArg List.length hread
      rw [List.length_map, List.length_map] at hlength
      exact hlength
    · intro others owner marks hmarks hother
      obtain ⟨lines', hsplit', hread'⟩ := Metrics.read_lines hother
      rw [hsplit] at hsplit'
      rw [← List.append_cancel_right hsplit', hread] at hread'
      have hlabels := ExpositionLine.labels_eq_of_lines
        (List.map_injective_iff.mpr (Option.some_injective _) hread')
      funext name
      rw [← Labels.lookup_ofPool hmarks, ← Labels.lookup_ofPool distinct, hlabels]

end expositions

/-- A value that ends in a backslash and one that looks like another label, the end of the labels
and another line are read back as they are, and the tag called `pool` wins. -/
theorem labels_read_back_hostile :
    let tags := [("zone", "a\\"), ("pool", "b\",zone=\"c\"\x7d 1\n# TYPE x gauge")]
    (tags.map Prod.fst).Nodup ∧
      ∃ text lines labels, ({} : Metrics).expose "main" tags = .ok text ∧
        text.toList.splitOn '\n' = lines ++ [[]] ∧ lines.length = 36 ∧
        labels.lookup "zone" = some "a\\" ∧
        labels.lookup "pool" = some "b\",zone=\"c\"\x7d 1\n# TYPE x gauge" ∧
        (lines.map ExpositionLine.read?)[2]? =
          some (some (.sample "keyedpool_activation_failures_total" labels "0")) := by
  intro tags
  have hdistinct : (tags.map Prod.fst).Nodup := by decide
  have hnames : ∀ tag ∈ tags, tag.1.toList ∈ Labels.namePattern.matches' := by
    intro tag htag
    have hall : ∀ tag ∈ tags, Labels.isName tag.1 = true := by decide
    exact Labels.isName_iff.mp (hall tag htag)
  obtain ⟨hexposed, hread⟩ := labels_read_back {} "main" hdistinct
  obtain ⟨text, htext⟩ := hexposed.mpr hnames
  obtain ⟨⟨lines, labels, hsplit, hlength, hlines, -, hlookup⟩, -⟩ := hread text htext
  refine ⟨hdistinct, text, lines, labels, htext, hsplit, hlength, hlookup "zone",
    hlookup "pool", ?_⟩
  have hvalue : FamilyKind.counter.sample 0 = "0" := by decide +kernel
  rw [hlines, ← hvalue]
  rfl

end ResourcePool
