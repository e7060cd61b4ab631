import TypeLowering.Proofs.Collecting

/-!
# Reading directives back

The text that a collector writes has one directive on each line, so it can be taken apart again as long
as no namespace goes over several lines.

* `imported?_eq_some_iff`: a line imports a namespace exactly if it is the directive of it, whatever
  the namespace looks like.
* `eq_block_iff`: reading the lines of a text gives a list of namespaces exactly if the text is the one
  that is written for them.
* `usings_decodable`: hence the text of a collector tells what has been collected.
-/

namespace TypeLowering.Collector

/-- The directives of namespaces, one on a line. -/
def block (names : List String) : String :=
  "\n".intercalate (names.map directive)

/-- The lines of a text, which line feeds separate. -/
def linesOf (text : String) : List String :=
  (text.toList.splitOn '\n').map String.ofList

/-- What a line imports, if it is a directive: what is left without its fixed beginning and end. -/
def imported? (line : String) : Option String :=
  ((line.toList.dropPrefix? "using ".toList).bind fun rest => rest.dropSuffix? ";".toList).map
    String.ofList

theorem usings_eq_block (c : Collector) : c.usings = block c.sorted := rfl

/-! ### One directive -/

theorem toList_directive (name : String) :
    (directive name).toList = "using ".toList ++ (name.toList ++ ";".toList) := by
  rw [directive, String.toList_append, String.toList_append, List.append_assoc]

theorem imported?_eq_some_iff {line name : String} :
    imported? line = some name ↔ line = directive name := by
  unfold imported?
  constructor
  · intro h
    obtain ⟨chars, hchars, hofList⟩ := Option.map_eq_some_iff.mp h
    have htoList : name.toList = chars := by rw [← hofList, String.toList_ofList]
    obtain ⟨rest, hrest, hname⟩ := Option.bind_eq_some_iff.mp hchars
    obtain ⟨start, hline, hstart⟩ := List.dropPrefix?_eq_some_iff.mp hrest
    obtain ⟨stop, hrest', hstop⟩ := List.dropSuffix?_eq_some_iff.mp hname
    rw [eq_of_beq hstart, hrest', eq_of_beq hstop] at hline
    apply String.toList_inj.mp
    rw [hline, toList_directive, htoList]
  · rintro rfl
    have hrest : (directive name).toList.dropPrefix? "using ".toList =
        some (name.toList ++ ";".toList) :=
      List.dropPrefix?_eq_some_iff.mpr ⟨_, toList_directive name, BEq.rfl⟩
    have hname : (name.toList ++ ";".toList).dropSuffix? ";".toList = some name.toList :=
      List.dropSuffix?_eq_some_iff.mpr ⟨_, rfl, BEq.rfl⟩
    rw [hrest, Option.bind_some, hname, Option.map_some, String.ofList_toList]

theorem directive_ne_empty (name : String) : directive name ≠ "" := by
  intro h
  have hlist := toList_directive name
  rw [h] at hlist
  exact absurd hlist (by simp)

theorem lineFeed_not_mem_directive {name : String} (h : '\n' ∉ name.toList) :
    '\n' ∉ (directive name).toList := by
  rw [toList_directive]
  intro hmem
  rcases List.mem_append.mp hmem with hstart | hrest
  · exact absurd hstart (by decide)
  · rcases List.mem_append.mp hrest with hname | hstop
    · exact h hname
    · exact absurd hstop (by decide)

/-! ### The lines of a text -/

theorem toList_intercalate_lines (lines : List String) :
    ("\n".intercalate lines).toList = ['\n'].intercalate (lines.map String.toList) :=
  String.toList_intercalate

/-- Lines that are put together are found again, if none goes over several lines. -/
theorem linesOf_intercalate {lines : List String} (h : ∀ l ∈ lines, '\n' ∉ l.toList)
    (hne : lines ≠ []) : linesOf ("\n".intercalate lines) = lines := by
  have hsplit : (['\n'].intercalate (lines.map String.toList)).splitOn '\n' =
      lines.map String.toList := by
    refine List.splitOn_intercalate '\n' (fun l hl => ?_) fun hnil => hne (List.map_eq_nil_iff.mp hnil)
    obtain ⟨line, hline, rfl⟩ := List.mem_map.mp hl
    exact h line hline
  rw [linesOf, toList_intercalate_lines, hsplit, List.map_map]
  simp

/-- The lines of a text make up the text. -/
theorem intercalate_linesOf (text : String) : "\n".intercalate (linesOf text) = text := by
  apply String.toList_inj.mp
  rw [toList_intercalate_lines, linesOf, List.map_map]
  simp [List.intercalate_splitOn, Function.comp_def]

/-! ### Blocks of directives -/

theorem map_imported?_eq_iff {lines names : List String} :
    lines.map imported? = names.map some ↔ lines = names.map directive := by
  induction lines generalizing names with
  | nil => cases names <;> simp
  | cons line lines ih =>
    cases names with
    | nil => simp
    | cons name names =>
      rw [List.map_cons, List.map_cons, List.map_cons, List.cons_eq_cons, List.cons_eq_cons, ih,
        imported?_eq_some_iff]

/-- **Reading undoes writing, and nothing else can be read so.** -/
theorem eq_block_iff {names : List String} (h : ∀ x ∈ names, '\n' ∉ x.toList) (hne : names ≠ [])
    {text : String} : text = block names ↔ (linesOf text).map imported? = names.map some := by
  rw [map_imported?_eq_iff]
  constructor
  · rintro rfl
    refine linesOf_intercalate (fun l hl => ?_) fun hnil => hne (List.map_eq_nil_iff.mp hnil)
    obtain ⟨name, hname, rfl⟩ := List.mem_map.mp hl
    exact lineFeed_not_mem_directive (h name hname)
  · intro hlines
    rw [block, ← hlines, intercalate_linesOf]

theorem block_eq_empty_iff {names : List String} : block names = "" ↔ names = [] := by
  constructor
  · intro h
    cases names with
    | nil => rfl
    | cons name names =>
      exfalso
      have hlist := congrArg String.toList h
      cases names with
      | nil => exact directive_ne_empty name (by simpa [block] using h)
      | cons name' names => simp [block, String.intercalate_cons_cons] at hlist
  · rintro rfl
    rfl

/-! ### What a collector writes -/

variable {c c' : Collector}

theorem names_eq_nil_iff {r : Requirement} : r.names = [] ↔ r = none ∨ r = some .empty := by
  cases r with
  | none => simp [Requirement.names]
  | some s =>
    obtain ⟨names, increasing⟩ := s
    simp [Requirement.names, NamespaceSet.empty]

theorem sorted_eq_nil_iff : c.sorted = [] ↔ c.collected = none ∨ c.collected = some .empty := by
  rw [← names_eq_nil_iff, List.eq_nil_iff_forall_not_mem, List.eq_nil_iff_forall_not_mem]
  simp only [mem_sorted]

theorem usings_eq_empty_iff :
    c.usings = "" ↔ c.collected = none ∨ c.collected = some .empty := by
  rw [usings_eq_block, block_eq_empty_iff, sorted_eq_nil_iff]

/-- A text reads as what a collector lists exactly if the collector writes it. -/
theorem eq_usings_iff (h : ∀ x ∈ c.collected.names, '\n' ∉ x.toList) (hne : c.usings ≠ "")
    {text : String} : text = c.usings ↔ (linesOf text).map imported? = c.sorted.map some := by
  have hsorted : c.sorted ≠ [] := fun hnil => hne (block_eq_empty_iff.mpr hnil)
  rw [usings_eq_block]
  exact eq_block_iff (fun x hx => h x (mem_sorted.mp hx)) hsorted

theorem sorted_eq_iff :
    c.sorted = c'.sorted ↔ ∀ x, x ∈ c.collected.names ↔ x ∈ c'.collected.names := by
  constructor
  · intro h x
    rw [← mem_sorted, h, mem_sorted]
  · intro h
    exact eq_sorted c.pairwise_sorted fun x => mem_sorted.trans (h x)

/-- The text of a collector tells the list of its namespaces. -/
theorem usings_eq_iff (h : ∀ x ∈ c.collected.names, '\n' ∉ x.toList)
    (h' : ∀ x ∈ c'.collected.names, '\n' ∉ x.toList) :
    c.usings = c'.usings ↔ c.sorted = c'.sorted := by
  constructor
  · intro heq
    by_cases hempty : c.usings = ""
    · have hempty' : c'.usings = "" := heq ▸ hempty
      rw [block_eq_empty_iff.mp hempty, block_eq_empty_iff.mp hempty']
    · have hread := (eq_usings_iff h hempty).mp rfl
      have hread' := (eq_usings_iff h' (heq ▸ hempty)).mp heq
      exact List.map_injective_iff.mpr (fun _ _ => Option.some.inj) (hread.symm.trans hread')
  · intro heq
    rw [usings_eq_block, usings_eq_block, heq]

/-- **What a collector writes can be read back.** The text is empty exactly if nothing has been collected.
Otherwise, if no namespace goes over several lines, the list of the collector is what is left of the
lines of the text without the beginning and the end that directives have, and there is no other text of
which that is left. So two such collectors write the same text exactly if they hold the same
namespaces. -/
theorem usings_decodable :
    (∀ c : Collector, c.usings = "" ↔ c.collected = none ∨ c.collected = some .empty) ∧
    (∀ c : Collector, (∀ x ∈ c.collected.names, '\n' ∉ x.toList) → c.usings ≠ "" →
      (linesOf c.usings).map imported? = c.sorted.map some ∧
      ∀ text, (linesOf text).map imported? = c.sorted.map some → text = c.usings) ∧
    (∀ c c' : Collector, (∀ x ∈ c.collected.names, '\n' ∉ x.toList) →
      (∀ x ∈ c'.collected.names, '\n' ∉ x.toList) →
      (c.usings = c'.usings ↔ ∀ x, x ∈ c.collected.names ↔ x ∈ c'.collected.names)) := by
  refine ⟨fun c => usings_eq_empty_iff, fun c h hne => ⟨?_, fun text => ?_⟩, fun c c' h h' => ?_⟩
  · exact (eq_usings_iff h hne).mp rfl
  · exact (eq_usings_iff h hne).mpr
  · rw [usings_eq_iff h h', sorted_eq_iff]

/-- Namespaces that are empty or look like directives do no harm, and of a namespace that comes twice
the text has one directive. -/
theorem usings_decodable_odd :
    let c : Collector := ⟨some (.ofList ["", "using A; B", ""])⟩
    let c' : Collector := ⟨some (.ofList ["using A; B", ""])⟩
    c.usings ≠ "" ∧ (linesOf c.usings).map imported? = c.sorted.map some ∧ c.usings = c'.usings := by
  intro c c'
  obtain ⟨hempty, hread, hsame⟩ := usings_decodable
  have h : ∀ x ∈ c.collected.names, '\n' ∉ x.toList := by decide
  have h' : ∀ x ∈ c'.collected.names, '\n' ∉ x.toList := by decide
  have hne : c.usings ≠ "" := fun hnil => absurd ((hempty c).mp hnil) (by decide)
  have hnames : ∀ x, x ∈ c.collected.names ↔ x ∈ c'.collected.names := by
    intro x
    show x ∈ NamespaceSet.ofList _ ↔ x ∈ NamespaceSet.ofList _
    rw [NamespaceSet.mem_ofList, NamespaceSet.mem_ofList]
    simp only [List.mem_cons, List.not_mem_nil, or_false]
    tauto
  exact ⟨hne, (hread c h hne).1, (hsame c c' h h').mpr hnames⟩

/-- A namespace that goes over two lines may look like two directives. -/
example : block ["A;\nusing B"] = block ["A", "B"] := by
  decide

end TypeLowering.Collector
