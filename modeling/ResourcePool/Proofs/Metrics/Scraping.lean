import ResourcePool.Metrics.Exposition
import ResourcePool.Proofs.Decimal.Integers

/-!
# Reading an exposition

An exposition is read back line by line, without knowing which families there are: a type line
begins a family, and every line that is no comment is a sample of the family before it. What is
read is compared with the table of the same snapshot.

* `Scraped.read` — the reader.
* `splitOn_lines` — a text whose lines end in a line feed has these lines, and an empty one.
* `newline_not_mem_block` — labels do not break a line, whatever the values of the tags.
* `Metrics.splitOn_expose` — an exposition is split into its lines, whatever is counted.
* `FamilyKind.sample_eq` — a value up to `2 ^ 53` is written with all its digits, as a counter and
  as a gauge.
* `exports_agree` — **both exports tell the same**.
-/

namespace ResourcePool

/-! ## The reader -/

/-- A family as it is read from an exposition. -/
structure Scraped where
  /-- The name of the family. -/
  name : String
  /-- The name of its kind. -/
  kind : String
  /-- The names of its series, with their values. -/
  samples : List (String × String) := []
  deriving DecidableEq, Repr

namespace Scraped

/-- How a type line begins. -/
def typeMark : List Char := ['#', ' ', 'T', 'Y', 'P', 'E', ' ']

/-- Reads a sample: the name of the series is what comes before the labels, and the value is the
last word. -/
def sample (line : List Char) : String × String :=
  (String.ofList (line.takeWhile (· ≠ '\x7b')),
    String.ofList (line.reverse.takeWhile (· ≠ ' ')).reverse)

/-- Reads one more line; the families that have been read are given with the latest first. -/
def next (families : List Scraped) (line : List Char) : List Scraped :=
  if typeMark.isPrefixOf line then
    match (line.drop typeMark.length).splitOn ' ' with
    | [name, kind] => { name := .ofList name, kind := .ofList kind } :: families
    | _ => families
  else if line.head? = none ∨ line.head? = some '#' then families
  else
    match families with
    | [] => []
    | family :: others => { family with samples := family.samples ++ [sample line] } :: others

/-- Reads a text. -/
def read (text : String) : List Scraped :=
  ((text.toList.splitOn '\n').foldl next []).reverse

end Scraped

/-! ## Lines -/

/-- Lines that end are lines with the end of a line between them, and an empty one after the last.
-/
theorem flatMap_lines (lines : List (List Char)) :
    (lines.flatMap fun line => line ++ ['\n']) = ['\n'].intercalate (lines ++ [[]]) := by
  induction lines with
  | nil => rfl
  | cons line rest ih =>
    rw [List.flatMap_cons, ih]
    cases rest <;> simp [List.intercalate]

/-- A text whose lines end in a line feed has these lines, and an empty one after the last. -/
theorem splitOn_lines {lines : List (List Char)} (plain : ∀ line ∈ lines, '\n' ∉ line) :
    (lines.flatMap fun line => line ++ ['\n']).splitOn '\n' = lines ++ [[]] := by
  rw [flatMap_lines]
  apply List.splitOn_intercalate
  · intro line hline
    rcases List.mem_append.mp hline with hline | hline
    · exact plain line hline
    · rw [List.mem_singleton.mp hline]
      exact List.not_mem_nil
  · simp

/-- What is in no part and not between them is not in the whole. -/
theorem not_mem_intercalate {α : Type} {entry : α} {separator : List α} {parts : List (List α)}
    (separated : entry ∉ separator) (apart : ∀ part ∈ parts, entry ∉ part) :
    entry ∉ separator.intercalate parts := by
  induction parts with
  | nil => simp [List.intercalate]
  | cons part rest ih =>
    have hpart := apart part List.mem_cons_self
    have hrest := ih fun other hother => apart other (List.mem_cons_of_mem _ hother)
    cases rest with
    | nil => simpa [List.intercalate] using hpart
    | cons other others =>
      simp only [List.intercalate] at hrest ⊢
      simp only [List.intersperse_cons_cons, List.flatten_cons, List.mem_append, not_or]
      exact ⟨hpart, separated, hrest⟩

/-! ## Labels -/

namespace Labels

/-- No escape has the end of a line in it. -/
theorem newline_not_mem_escape (c : Char) : '\n' ∉ escape c := by
  unfold escape
  split <;> simp_all [eq_comm]

/-- A character that cannot stand in a label name stands in none. -/
theorem not_mem_name {name : String} (valid : isName name = true) {c : Char}
    (foreign : isNameChar c = false) : c ∉ name.toList := by
  have hstart : isNameStart c = false := (Bool.or_eq_false_iff.mp foreign).1
  intro hmem
  unfold isName at valid
  split at valid
  · cases valid
  · next first rest hlist =>
    rw [hlist] at hmem
    obtain ⟨hfirst, hrest⟩ := Bool.and_eq_true_iff.mp valid
    rcases List.mem_cons.mp hmem with rfl | hmem
    · rw [hstart] at hfirst
      cases hfirst
    · have := List.all_eq_true.mp hrest _ hmem
      rw [foreign] at this
      cases this

/-- No label has. -/
theorem newline_not_mem_pair {label : String × String} (valid : isName label.1 = true) :
    '\n' ∉ (pair label).toList := by
  have hname := not_mem_name valid (by decide : isNameChar '\n' = false)
  have hvalue : '\n' ∉ label.2.toList.flatMap escape := by
    intro hmem
    obtain ⟨c, -, hc⟩ := List.mem_flatMap.mp hmem
    exact newline_not_mem_escape c hc
  simp [pair, hname, hvalue]

/-- **Labels do not break a line**, whatever the values of the tags. -/
theorem newline_not_mem_block {labels : Labels} (valid : ∀ label ∈ labels, isName label.1 = true) :
    '\n' ∉ labels.block.toList := by
  have hpairs : ∀ part ∈ (labels.map pair).map String.toList, '\n' ∉ part := by
    intro part hpart
    obtain ⟨_, hmem, rfl⟩ := List.mem_map.mp hpart
    obtain ⟨label, hlabel, rfl⟩ := List.mem_map.mp hmem
    exact newline_not_mem_pair (valid label hlabel)
  have hinner := not_mem_intercalate (by decide : '\n' ∉ ",".toList) hpairs
  unfold block
  rw [String.toList_append, String.toList_append, String.toList_intercalate, List.mem_append,
    List.mem_append, not_or, not_or]
  exact ⟨⟨by decide, hinner⟩, by decide⟩

/-- The labels of a pool have valid names if the tags have. -/
theorem isName_ofPool {pool : String} {tags : List (String × String)}
    (valid : ∀ tag ∈ tags, isName tag.1 = true) :
    ∀ label ∈ ofPool pool tags, isName label.1 = true := by
  intro label hlabel
  have hpool : isName "pool" = true := by decide
  unfold ofPool at hlabel
  rw [List.mem_mergeSort] at hlabel
  split at hlabel
  · exact valid label hlabel
  · rcases List.mem_cons.mp hlabel with rfl | hmem
    · exact hpool
    · exact valid label hmem

end Labels

/-! ## Values -/

/-- A natural number is the same as an integer. -/
theorem Binary64.ofInt_natCast (n : Nat) : ofInt n = ofNat n := by
  have hsign : ¬ (n : Int) < 0 := Int.not_lt.mpr (Int.natCast_nonneg n)
  rw [ofInt, ofNat, Int.natAbs_natCast, decide_eq_false hsign]

/-- **A value up to `2 ^ 53` is written with all its digits**, whatever the kind of the family. -/
theorem FamilyKind.sample_eq {value : UInt64} (small : value.toNat ≤ 2 ^ 53) (kind : FamilyKind) :
    kind.sample value = toString value.toNat := by
  cases kind with
  | counter => exact Binary64.positional_ofNat small
  | gauge =>
    have hint : value.toInt64.toInt = value.toNat := by
      apply BitVec.toInt_eq_toNat_of_lt
      show 2 * value.toNat < 2 ^ 64
      omega
    show (Binary64.ofInt value.toInt64.toInt).positional = _
    rw [hint, Binary64.ofInt_natCast, Binary64.positional_ofNat small]

/-- A decimal is written with digits and a point. -/
theorem Decimal.mem_positional {d : Decimal} {c : Char} (mem : c ∈ d.positional.toList) :
    c.isDigit = true ∨ c = '.' := by
  have hdigits : ∀ n : Nat, ∀ digit ∈ (toString n).toList, digit.isDigit = true := by
    intro n digit hdigit
    rw [Nat.toString_eq_repr, Nat.toList_repr] at hdigit
    exact Nat.isDigit_of_mem_toDigits (by decide) (by decide) hdigit
  have hzeros : ∀ n, ∀ digit ∈ List.replicate n '0', digit.isDigit = true := by
    intro n digit hdigit
    rw [List.eq_of_mem_replicate hdigit]
    rfl
  unfold positional at mem
  split at mem
  · left
    split at mem
    · have hzero : c = '0' := by simpa using mem
      rw [hzero]
      rfl
    · rw [String.toList_append, String.toList_ofList, List.mem_append] at mem
      exact mem.elim (hdigits _ c) (hzeros _ c)
  · -- the point goes between two parts of one row of digits
    have hpadded : ∀ digit ∈ (String.ofList (List.replicate ((-d.power).toNat + 1 -
        (toString d.coefficient).length) '0') ++ toString d.coefficient).toList,
        digit.isDigit = true := by
      intro digit hdigit
      rw [String.toList_append, String.toList_ofList, List.mem_append] at hdigit
      exact hdigit.elim (hzeros _ digit) (hdigits _ digit)
    rw [String.toList_ofList, List.mem_append, List.mem_cons] at mem
    rcases mem with hbefore | rfl | hbehind
    · exact .inl (hpadded c (List.mem_of_mem_take hbefore))
    · exact .inr rfl
    · exact .inl (hpadded c (List.mem_of_mem_drop hbehind))

/-- A number is written with digits, a point and a sign. -/
theorem Binary64.not_mem_positional (x : Binary64) {c : Char}
    (foreign : c.isDigit = false ∧ c ≠ '.' ∧ c ≠ '-') : c ∉ x.positional.toList := by
  obtain ⟨hdigit, hpoint, hminus⟩ := foreign
  have hsign : c ∉ x.sign.toList := by
    unfold sign
    split
    · simpa using hminus
    · exact List.not_mem_nil
  unfold positional
  rw [String.toList_append, List.mem_append, not_or]
  refine ⟨hsign, ?_⟩
  intro hmem
  rcases Decimal.mem_positional hmem with hdigit' | hpoint'
  · rw [hdigit] at hdigit'
    cases hdigit'
  · exact hpoint hpoint'

/-- A value is one word on one line, however large it is. -/
theorem FamilyKind.sample_plain (kind : FamilyKind) (value : UInt64) :
    ' ' ∉ (kind.sample value).toList ∧ '\n' ∉ (kind.sample value).toList := by
  cases kind <;>
    exact ⟨Binary64.not_mem_positional _ (by decide), Binary64.not_mem_positional _ (by decide)⟩

/-! ## Families -/

/-- The names of the families are single words that stand neither for a comment nor for labels. -/
theorem Family.name_plain : ∀ family ∈ Family.all, ' ' ∉ family.name.toList ∧
    '\x7b' ∉ family.name.toList ∧ family.name.toList.head? = some 'k' ∧
    '\n' ∉ family.name.toList ∧ '\n' ∉ family.help.toList := by
  decide +kernel

/-- The name of a kind is one word. -/
theorem FamilyKind.name_plain (kind : FamilyKind) :
    ' ' ∉ kind.name.toList ∧ '\n' ∉ kind.name.toList := by
  cases kind <;> decide

/-- No line of an exposition is broken. -/
theorem newline_not_mem_lines (metrics : Metrics) {labels : Labels}
    (valid : ∀ label ∈ labels, Labels.isName label.1 = true) :
    ∀ line ∈ (Family.all.flatMap fun family => family.lines labels metrics).map String.toList,
      '\n' ∉ line := by
  intro line hline
  obtain ⟨text, htext, rfl⟩ := List.mem_map.mp hline
  obtain ⟨family, hfamily, htext⟩ := List.mem_flatMap.mp htext
  obtain ⟨-, -, -, hname, hhelp⟩ := Family.name_plain family hfamily
  obtain ⟨-, hkind⟩ := family.kind.name_plain
  have hblock := Labels.newline_not_mem_block valid
  obtain ⟨-, hvalue⟩ := family.kind.sample_plain (metrics.get family.metric)
  simp only [Family.lines, List.mem_cons, List.not_mem_nil, or_false] at htext
  rcases htext with rfl | rfl | rfl
  · simp [hname, hhelp]
  · simp [hname, hkind]
  · simp [hname, hblock, hvalue]

/-- **An exposition is its lines**: a snapshot under tags with valid names is exposed, and the text
is split at its line feeds into the lines of the families. -/
theorem Metrics.splitOn_expose (metrics : Metrics) (pool : String) {tags : List (String × String)}
    (valid : ∀ tag ∈ tags, Labels.isName tag.1 = true) :
    ∃ text, metrics.expose pool tags = .ok text ∧ text.toList.splitOn '\n' =
      (Family.all.flatMap fun family =>
        family.lines (Labels.ofPool pool tags) metrics).map String.toList ++ [[]] := by
  have hlabels : ∀ label ∈ Labels.ofPool pool tags, Labels.isName label.1 = true :=
    Labels.isName_ofPool valid
  have hvalid : ((Labels.ofPool pool tags).find? fun label => !Labels.isName label.1) = none := by
    apply List.find?_eq_none.mpr
    intro label hlabel
    simp [hlabels label hlabel]
  have hlines : ∀ lines : List String, (lines.map fun line => line ++ "\n").flatMap String.toList =
      (lines.map String.toList).flatMap fun line => line ++ ['\n'] := by
    intro lines
    simp only [List.flatMap_map, String.toList_append]
    rfl
  unfold Metrics.expose
  simp only [hvalid]
  refine ⟨_, rfl, ?_⟩
  rw [String.toList_join, hlines, splitOn_lines (newline_not_mem_lines metrics hlabels)]

namespace Scraped

/-- A sample is read by the name in front of its labels and the word at its end. -/
theorem sample_eq {name block value : String} (plain : '\x7b' ∉ name.toList)
    (labelled : block.toList.head? = some '\x7b') (word : ' ' ∉ value.toList) :
    sample (name ++ block ++ " " ++ value).toList = (name, value) := by
  obtain ⟨rest, hblock⟩ := List.head?_eq_some_iff.mp labelled
  have hline : (name ++ block ++ " " ++ value).toList =
      name.toList ++ '\x7b' :: (rest ++ ' ' :: value.toList) := by
    simp [hblock]
  have hname : (name.toList ++ '\x7b' :: (rest ++ ' ' :: value.toList)).takeWhile (· ≠ '\x7b') =
      name.toList := by
    rw [List.takeWhile_append_of_pos fun c hc => decide_eq_true (ne_of_mem_of_not_mem hc plain),
      List.takeWhile_cons_of_neg (by simp), List.append_nil]
  have hreverse : (name.toList ++ '\x7b' :: (rest ++ ' ' :: value.toList)).reverse =
      value.toList.reverse ++ ' ' :: (name.toList ++ '\x7b' :: rest).reverse := by
    simp
  have hvalue : (value.toList.reverse ++ ' ' :: (name.toList ++ '\x7b' :: rest).reverse).takeWhile
      (· ≠ ' ') = value.toList.reverse := by
    rw [List.takeWhile_append_of_pos fun c hc =>
        decide_eq_true (ne_of_mem_of_not_mem (List.mem_reverse.mp hc) word),
      List.takeWhile_cons_of_neg (by simp), List.append_nil]
  rw [sample, hline, hname, hreverse, hvalue, List.reverse_reverse, String.ofList_toList,
    String.ofList_toList]

/-- A line of help opens no family. -/
theorem next_help (families : List Scraped) (family : Family) :
    next families ("# HELP " ++ family.name ++ " " ++ family.help).toList = families := by
  have hmark : "# HELP ".toList = ['#', ' ', 'H', 'E', 'L', 'P', ' '] := by decide
  simp [next, typeMark, hmark]

/-- A line with a kind opens the family. -/
theorem next_type (families : List Scraped) {family : Family} (mem : family ∈ Family.all) :
    next families ("# TYPE " ++ family.name ++ " " ++ family.kind.name).toList =
      { name := family.name, kind := family.kind.name } :: families := by
  obtain ⟨hspace, -⟩ := Family.name_plain family mem
  obtain ⟨hkind, -⟩ := family.kind.name_plain
  have hmark : "# TYPE ".toList = typeMark := by decide
  have hline : ("# TYPE " ++ family.name ++ " " ++ family.kind.name).toList =
      typeMark ++ (family.name.toList ++ ' ' :: family.kind.name.toList) := by
    simp [hmark]
  have hwords : (family.name.toList ++ ' ' :: family.kind.name.toList).splitOn ' ' =
      [family.name.toList, family.kind.name.toList] := by
    have hapart : ∀ word ∈ [family.name.toList, family.kind.name.toList], ' ' ∉ word := by
      intro word hword
      rcases List.mem_cons.mp hword with rfl | hword
      · exact hspace
      · rw [List.mem_singleton.mp hword]
        exact hkind
    have hsplit := List.splitOn_intercalate ' ' hapart (List.cons_ne_nil _ _)
    simpa [List.intercalate] using hsplit
  unfold next
  rw [hline, if_pos (by simp), List.drop_left, hwords]
  simp

/-- A line with a value adds a sample to the family that is open. -/
theorem next_sample (families : List Scraped) {family : Family} (mem : family ∈ Family.all)
    (found : Scraped) {block value : String} (labelled : block.toList.head? = some '\x7b')
    (word : ' ' ∉ value.toList) :
    next (found :: families) (family.name ++ block ++ " " ++ value).toList =
      { found with samples := found.samples ++ [(family.name, value)] } :: families := by
  obtain ⟨-, hplain, hhead, -⟩ := Family.name_plain family mem
  obtain ⟨rest, hrest⟩ := List.head?_eq_some_iff.mp hhead
  have hsample := sample_eq hplain labelled word
  have hline : (family.name ++ block ++ " " ++ value).toList =
      'k' :: (rest ++ block.toList ++ ' ' :: value.toList) := by
    simp [hrest]
  rw [hline] at hsample ⊢
  have hmark : typeMark.isPrefixOf ('k' :: (rest ++ block.toList ++ ' ' :: value.toList)) = false :=
    rfl
  have hcomment : ¬ (some 'k' = (none : Option Char) ∨ some 'k' = some '#') := by decide
  unfold next
  rw [hmark, if_neg Bool.false_ne_true, List.head?_cons, if_neg hcomment, hsample]

/-- **The three lines of a family** are read as one family with one sample. -/
theorem foldl_lines {family : Family} (mem : family ∈ Family.all) (labels : Labels)
    (metrics : Metrics) (families : List Scraped) :
    ((family.lines labels metrics).map String.toList).foldl next families =
      { name := family.name, kind := family.kind.name,
        samples := [(family.name, family.kind.sample (metrics.get family.metric))] } ::
          families := by
  have hlabelled : labels.block.toList.head? = some '\x7b' := by simp [Labels.block]
  obtain ⟨hword, -⟩ := family.kind.sample_plain (metrics.get family.metric)
  simp only [Family.lines, List.map_cons, List.map_nil, List.foldl_cons, List.foldl_nil]
  rw [next_help, next_type families mem, next_sample families mem _ hlabelled hword]
  rfl

/-- Families that are written one after another are read as they were written. -/
theorem foldl_families {metrics : Metrics} (small : ∀ metric, (metrics.get metric).toNat ≤ 2 ^ 53)
    (labels : Labels) (written : List Family) (known : ∀ family ∈ written, family ∈ Family.all)
    (families : List Scraped) :
    ((written.flatMap fun family => family.lines labels metrics).map String.toList).foldl next
        families =
      (written.map fun family =>
        { name := family.name, kind := family.kind.name,
          samples := [(family.name, metrics.text family.metric)] : Scraped }).reverse ++
        families := by
  induction written generalizing families with
  | nil => rfl
  | cons family rest ih =>
    rw [List.flatMap_cons, List.map_append, List.foldl_append,
      foldl_lines (known family List.mem_cons_self) labels metrics,
      ih fun other hother => known other (List.mem_cons_of_mem _ hother),
      family.kind.sample_eq (small family.metric), List.map_cons, List.reverse_cons,
      List.append_assoc]
    rfl

/-- **An exposition is read as the families of the snapshot**, one sample in each, with all the
digits of the values. -/
theorem read_expose {metrics : Metrics} (small : ∀ metric, (metrics.get metric).toNat ≤ 2 ^ 53)
    (pool : String) {tags : List (String × String)}
    (valid : ∀ tag ∈ tags, Labels.isName tag.1 = true) :
    ∃ text, metrics.expose pool tags = .ok text ∧ read text = Family.all.map fun family =>
      { name := family.name, kind := family.kind.name,
        samples := [(family.name, metrics.text family.metric)] } := by
  obtain ⟨text, htext, hsplit⟩ := metrics.splitOn_expose pool valid
  refine ⟨text, htext, ?_⟩
  rw [read, hsplit, List.foldl_append, foldl_families small _ Family.all (fun _ h => h),
    List.append_nil]
  simp [next, typeMark]

end Scraped

/-! ## Both exports -/

/-- Every metric is found in the table. -/
theorem Metrics.lookup_table (metrics : Metrics) (metric : Metric) :
    metrics.table.lookup metric.name = some (metrics.text metric) := by
  cases metric <;> rfl

/-- **Both exports tell the same.** For a snapshot whose values are at most `2 ^ 53`, under any pool
name and any tags with valid names, the table has twelve entries, and the exposition has twelve
families in the order of their names: every metric has one family, which is a gauge for the three
current values and a counter for the nine totals, and the one sample of the family is the decimal
that the table has for the metric. -/
theorem exports_agree {metrics : Metrics} (small : ∀ metric, (metrics.get metric).toNat ≤ 2 ^ 53)
    (pool : String) {tags : List (String × String)}
    (valid : ∀ tag ∈ tags, Labels.isName tag.1 = true) :
    metrics.table.length = 12 ∧ (metrics.table.map Prod.fst).Nodup ∧
    (Family.all.map Family.metric).Perm Metric.all ∧
    (∀ family ∈ Family.all, family.kind = .gauge ↔
      family.metric = .active ∨ family.metric = .idle ∨ family.metric = .keys) ∧
    ∃ text, metrics.expose pool tags = .ok text ∧
      (Scraped.read text).length = 12 ∧
      (Scraped.read text).Pairwise (fun first second => first.name < second.name) ∧
      ∀ family ∈ Family.all, ∃ decimal, metrics.table.lookup family.metric.name = some decimal ∧
        { name := family.name, kind := family.kind.name, samples := [(family.name, decimal)] } ∈
          Scraped.read text := by
  obtain ⟨text, htext, hread⟩ := Scraped.read_expose small pool valid
  have hnames : (metrics.table.map Prod.fst).Nodup := by
    have hmap : metrics.table.map Prod.fst = Metric.all.map Metric.name := rfl
    rw [hmap]
    decide +kernel
  have hsorted : Family.all.Pairwise fun first second => first.name < second.name := by
    decide +kernel
  refine ⟨rfl, hnames, by decide, by decide, text, htext, ?_, ?_, ?_⟩
  · rw [hread]
    rfl
  · rw [hread]
    exact List.pairwise_map.mpr hsorted
  · intro family hfamily
    refine ⟨_, metrics.lookup_table family.metric, ?_⟩
    rw [hread]
    exact List.mem_map.mpr ⟨family, hfamily, rfl⟩

/-- A total of `2 ^ 53` keeps its last digit, and a tag with a line feed in it breaks no line. -/
theorem exports_agree_exact :
    let metrics : Metrics := { borrowed := 9007199254740992, active := 7 }
    (∀ metric, (metrics.get metric).toNat ≤ 2 ^ 53) ∧
    ∃ text, metrics.expose "main" [("tier", "a\n\x7b b")] = .ok text ∧
      (Scraped.read text).length = 12 ∧
      { name := "keyedpool_objects_borrowed_total", kind := "counter",
        samples := [("keyedpool_objects_borrowed_total", "9007199254740992")] } ∈
          Scraped.read text := by
  intro metrics
  have hsmall : ∀ metric, (metrics.get metric).toNat ≤ 2 ^ 53 := by
    intro metric
    cases metric <;> decide
  have hvalid : ∀ tag ∈ [("tier", "a\n\x7b b")], Labels.isName tag.1 = true := by decide
  obtain ⟨-, -, -, -, text, htext, hlength, -, hfamilies⟩ := exports_agree hsmall "main" hvalid
  obtain ⟨decimal, hdecimal, hread⟩ := hfamilies ⟨"keyedpool_objects_borrowed_total",
    "Objects borrowed", .counter, .borrowed⟩ (by decide)
  have hvalue : decimal = "9007199254740992" := by
    have hlookup := metrics.lookup_table .borrowed
    rw [hlookup] at hdecimal
    exact (Option.some.inj hdecimal).symm.trans (by decide +kernel)
  rw [hvalue] at hread
  exact ⟨hsmall, text, htext, hlength, hread⟩

end ResourcePool
