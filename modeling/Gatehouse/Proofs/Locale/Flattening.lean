import Mathlib.Data.List.Perm.Basic
import Gatehouse.Locale.Catalog
import Gatehouse.Proofs.Text.Fields
import Gatehouse.Proofs.Toml.Documents

/-!
# `Gatehouse.Proofs.Locale.Flattening` — a catalog has one entry for each leaf of its tree

The address of a leaf is the join of the keys that lead to it. Where no key has a dot in it, the keys can be told from
their join, empty keys too (`Catalog.dotted_inj`). So two leaves never share an address, and no entry of the catalog
takes the place of another (`Catalog.entries_ofTree_perm`). What is found is the text of the leaf that keys lead to,
and nothing is found at the address of a table (`Catalog.flattened`).
-/

namespace Gatehouse

/-! ## Tables of lists -/

/-- **A table of a list with distinct keys** has the entries of the list, and no others. -/
theorem Table.ofList_perm {κ ν : Type} [DecidableEq κ] {xs : List (κ × ν)} (h : (xs.map Prod.fst).Nodup) :
    (Table.ofList xs).entries.Perm xs := by
  suffices hfrom : ∀ t : Table κ ν, ((xs ++ t.entries).map Prod.fst).Nodup →
      (xs.foldl (fun t e => t.insert e.1 e.2) t).entries.Perm (xs ++ t.entries) by
    have hstart : xs ++ (Table.empty : Table κ ν).entries = xs := List.append_nil xs
    have hempty := hfrom Table.empty
    rw [hstart] at hempty
    exact hempty h
  clear h
  induction xs with
  | nil => exact fun t _ => .refl _
  | cons e xs ih =>
      intro t hkeys
      obtain ⟨hnew, hkeys⟩ := List.nodup_cons.mp hkeys
      -- Nothing is replaced, since the key is new.
      have herase : (t.erase e.1).entries = t.entries := by
        refine List.filter_eq_self.mpr fun e' he' => decide_eq_true fun hsame => hnew ?_
        exact hsame ▸ List.mem_map_of_mem (List.mem_append_right xs he')
      have hinsert : (t.insert e.1 e.2).entries = e :: t.entries := congrArg (e :: ·) herase
      have hperm : (xs ++ e :: t.entries).Perm (e :: (xs ++ t.entries)) := List.perm_middle
      have hrest := ih (t.insert e.1 e.2)
      rw [hinsert] at hrest
      exact (hrest ((hperm.map Prod.fst).nodup_iff.mpr (List.nodup_cons.mpr ⟨hnew, hkeys⟩))).trans hperm

namespace Catalog

variable {t v : Toml} {entries : Toml.Entries} {path path' : List String}

/-! ## The leaves of a tree -/

theorem branches_eq_map (entries : Toml.Entries) : branches entries = entries.map fun e => (e.1, leaves e.2) := by
  induction entries with
  | nil => rfl
  | cons e entries ih =>
      rw [branches, ih]
      rfl

/-- Bringing branches into order is a permutation of them. -/
theorem foldr_insertBranch_perm (branches : List (String × List Leaf)) :
    (branches.foldr insertBranch []).Perm branches := by
  have hinsert (b : String × List Leaf) (rest : List (String × List Leaf)) :
      (insertBranch b rest).Perm (b :: rest) := by
    induction rest with
    | nil => exact .refl _
    | cons first rest ih =>
        rw [insertBranch]
        split
        · exact .refl _
        · exact (ih.cons first).trans (.swap b first rest)
  induction branches with
  | nil => exact .refl _
  | cons b branches ih => exact (hinsert b _).trans (ih.cons b)

theorem leaves_of_isLeaf (h : v.IsLeaf) : leaves v = [([], v)] := by
  cases v with
  | table => exact h.elim
  | _ => rfl

/-- The leaves of a table are those of its values, in some order. -/
theorem leaves_table_perm (entries : Toml.Entries) :
    (leaves (.table entries)).Perm (entries.flatMap fun e => (leaves e.2).map fun l => (e.1 :: l.1, l.2)) := by
  have hjoined : (leaves (.table entries)).Perm
      ((branches entries).flatMap fun b => b.2.map fun l => (b.1 :: l.1, l.2)) :=
    (foldr_insertBranch_perm _).flatMap_right _
  rwa [branches_eq_map, List.flatMap_map] at hjoined

/-- **The leaves of a tree are the values which are not tables**, each with the keys that lead to it. -/
theorem mem_leaves_iff (h : t.Distinct) : (path, v) ∈ leaves t ↔ t.LeadsTo path v ∧ v.IsLeaf := by
  induction h generalizing path v with
  | @leaf t hleaf =>
      rw [leaves_of_isLeaf hleaf, List.mem_singleton, Prod.mk.injEq, hleaf.leadsTo_iff]
      constructor
      · rintro ⟨rfl, rfl⟩
        exact ⟨⟨rfl, rfl⟩, hleaf⟩
      · exact fun h => h.1
  | @table entries _ _ ih =>
      simp only [(leaves_table_perm entries).mem_iff, List.mem_flatMap, List.mem_map, Prod.mk.injEq]
      constructor
      · rintro ⟨e, he, l, hl, rfl, rfl⟩
        obtain ⟨hlead, hleaf⟩ := (ih e he).mp hl
        exact ⟨.through he hlead, hleaf⟩
      · rintro ⟨hlead, hleaf⟩
        cases hlead with
        | here => exact hleaf.elim
        | @through _ key path w _ he hrest => exact ⟨(key, w), he, (path, v), (ih _ he).mpr ⟨hrest, hleaf⟩, rfl, rfl⟩

/-- No keys lead to two leaves. -/
theorem nodup_leaves (h : t.Distinct) : ((leaves t).map Prod.fst).Nodup := by
  induction h with
  | leaf hleaf =>
      rw [leaves_of_isLeaf hleaf]
      exact List.nodup_singleton []
  | @table entries hkeys _ ih =>
      rw [((leaves_table_perm entries).map Prod.fst).nodup_iff, List.map_flatMap, List.nodup_flatMap]
      constructor
      · intro e he
        have hcons := (ih e he).map (List.cons_injective (a := e.1))
        simpa [Function.comp_def] using hcons
      · -- Leaves of two entries differ in their first key.
        refine (List.pairwise_map.mp hkeys).imp fun {a b} hne => ?_
        intro path ha hb
        simp only [List.map_map, List.mem_map, Function.comp_apply] at ha hb
        obtain ⟨l, -, rfl⟩ := ha
        obtain ⟨l', -, heq⟩ := hb
        exact hne (List.cons.inj heq).1.symm

/-! ## Addresses -/

/-- **Keys without dots can be told from their join**, empty keys too. -/
theorem dotted_inj (hne : path ≠ []) (hne' : path' ≠ []) (h : ∀ key ∈ path, '.' ∉ key.toList)
    (h' : ∀ key ∈ path', '.' ∉ key.toList) (heq : dotted path = dotted path') : path = path' := by
  have hfields {path : List String} (hne : path ≠ []) (h : ∀ key ∈ path, '.' ∉ key.toList) :
      Text.fields '.' (dotted path).toList = path.map String.toList := by
    rw [dotted, String.toList_intercalate]
    exact Text.fields_intercalate (mt List.map_eq_nil_iff.mp hne) (List.forall_mem_map.mpr h)
  refine List.map_injective_iff.mpr (fun a b => String.toList_inj.mp) ?_
  rw [← hfields hne h, ← hfields hne' h', heq]

/-- Two ways into a tree have one address only if they are the same. -/
theorem eq_of_dotted_eq (h : t.Distinct) (hdots : t.Undotted) {w : Toml} (hv : t.LeadsTo path v)
    (hw : t.LeadsTo path' w) (hne : path ≠ []) (hne' : path' ≠ []) (heq : dotted path = dotted path') :
    path = path' ∧ v = w := by
  have hpath := dotted_inj hne hne' (hdots _ _ hv) (hdots _ _ hw) heq
  exact ⟨hpath, hv.unique h (hpath ▸ hw)⟩

/-! ## Texts -/

/-- The text is the line for an element of a list of lines: a string itself, and any other value as it is written. -/
inductive IsLine : Toml → String → Prop where
  | string (s : String) : IsLine (.string s) s
  /-- The text of a date or time is that of the table that stands for it. -/
  | datetime (s : String) : IsLine (.datetime s) (Toml.datetimeTable s).text
  | written {v : Toml} : (∀ s, v ≠ .string s) → (∀ s, v ≠ .datetime s) → IsLine v v.text

/-- The text is that of a leaf. -/
inductive Shows : Toml → String → Prop where
  | lines {items : List Toml} {lines : List String} :
      List.Forall₂ IsLine items lines → Shows (.array items) (String.intercalate "\n" lines)
  | line {v : Toml} {text : String} : v.IsLeaf → (∀ items, v ≠ .array items) → IsLine v text → Shows v text

theorem isLine_iff {text : String} : IsLine v text ↔ lineText v = text := by
  constructor
  · intro h
    cases h with
    | string => rfl
    | datetime => rfl
    | written hstring hdatetime =>
      cases v with
      | string s => exact absurd rfl (hstring s)
      | datetime s => exact absurd rfl (hdatetime s)
      | _ => rfl
  · rintro rfl
    cases v with
    | string s => exact .string s
    | datetime s => exact .datetime s
    | _ => exact .written (by simp) (by simp)

theorem forall₂_isLine_iff {items : List Toml} {lines : List String} :
    List.Forall₂ IsLine items lines ↔ items.map lineText = lines := by
  have hline : IsLine = fun v text => lineText v = text := funext fun v => funext fun text => propext isLine_iff
  rw [hline, ← List.forall₂_map_left_iff, List.forall₂_eq_eq_eq]

theorem shows_iff {text : String} : Shows v text ↔ v.IsLeaf ∧ leafText v = text := by
  constructor
  · intro h
    cases h with
    | lines h => exact ⟨trivial, congrArg (String.intercalate "\n") (forall₂_isLine_iff.mp h)⟩
    | line hleaf harray hline =>
      refine ⟨hleaf, ?_⟩
      cases v with
      | array items => exact absurd rfl (harray items)
      | _ => exact isLine_iff.mp hline
  · rintro ⟨hleaf, rfl⟩
    cases v with
    | array items => exact .lines (forall₂_isLine_iff.mpr rfl)
    | _ => exact .line hleaf (by simp) (isLine_iff.mpr rfl)

/-! ## The catalog of a tree -/

/-- What is promised of the catalog of a tree. -/
structure Flattens (t : Toml) (c : Catalog) : Prop where
  /-- A lookup finds the text of the leaf that has the address, and nothing else. -/
  get?_iff : ∀ address text, c.get? address = some text ↔
    ∃ path v, t.LeadsTo path v ∧ Shows v text ∧ dotted path = address
  /-- It finds nothing where there is no leaf. -/
  get?_none : ∀ address, (∀ path v, t.LeadsTo path v → v.IsLeaf → dotted path ≠ address) → c.get? address = none
  /-- There is none where the tree has a table. -/
  get?_table : ∀ path entries, t.LeadsTo path (.table entries) → path ≠ [] → c.get? (dotted path) = none
  /-- Two leaves have different addresses. -/
  injective : ∀ path v path' v', t.LeadsTo path v → v.IsLeaf → t.LeadsTo path' v' → v'.IsLeaf →
    dotted path = dotted path' → path = path' ∧ v = v'
  /-- There is one entry for each leaf: none was replaced by another. -/
  one_to_one : ∃ found : List Leaf, (found.map Prod.fst).Nodup ∧
    (∀ path v, (path, v) ∈ found ↔ t.LeadsTo path v ∧ v.IsLeaf) ∧
    (found.map fun l => (dotted l.1, leafText l.2)).Perm c.entries.entries

/-- The addresses of the leaves of a table are distinct. -/
theorem nodup_dotted_leaves (h : (Toml.table entries).Distinct) (hdots : (Toml.table entries).Undotted) :
    ((leaves (.table entries)).map fun l => dotted l.1).Nodup := by
  have hpaths := nodup_leaves h
  have hmap : (leaves (.table entries)).map (fun l => dotted l.1)
      = ((leaves (.table entries)).map Prod.fst).map dotted := by rw [List.map_map]; rfl
  rw [hmap]
  refine hpaths.map_on fun path hpath path' hpath' heq => ?_
  obtain ⟨⟨_, v⟩, hmem, rfl⟩ := List.mem_map.mp hpath
  obtain ⟨⟨_, w⟩, hmem', rfl⟩ := List.mem_map.mp hpath'
  obtain ⟨hv, hleaf⟩ := (mem_leaves_iff h).mp hmem
  obtain ⟨hw, hleaf'⟩ := (mem_leaves_iff h).mp hmem'
  exact (eq_of_dotted_eq h hdots hv hw (hv.ne_nil hleaf) (hw.ne_nil hleaf') heq).1

theorem entries_ofTree_perm (code : String) (h : (Toml.table entries).Distinct)
    (hdots : (Toml.table entries).Undotted) :
    (ofTree code entries).entries.entries.Perm
      ((leaves (.table entries)).map fun l => (dotted l.1, leafText l.2)) := by
  refine Table.ofList_perm ?_
  rw [List.map_map]
  exact nodup_dotted_leaves h hdots

theorem get?_ofTree_iff (code : String) (h : (Toml.table entries).Distinct) (hdots : (Toml.table entries).Undotted)
    (address text : String) :
    (ofTree code entries).get? address = some text ↔
      ∃ path v, (Toml.table entries).LeadsTo path v ∧ Shows v text ∧ dotted path = address := by
  simp only [get?, Table.get?_eq_some_iff, (entries_ofTree_perm code h hdots).mem_iff, List.mem_map, Prod.mk.injEq,
    Prod.exists, mem_leaves_iff h, shows_iff]
  grind

theorem get?_ofTree_eq_none (code : String) (h : (Toml.table entries).Distinct)
    (hdots : (Toml.table entries).Undotted) {address : String}
    (hother : ∀ path v, (Toml.table entries).LeadsTo path v → v.IsLeaf → dotted path ≠ address) :
    (ofTree code entries).get? address = none := by
  refine Option.eq_none_iff_forall_ne_some.mpr fun text htext => ?_
  obtain ⟨path, v, hlead, hshows, haddress⟩ := (get?_ofTree_iff code h hdots address text).mp htext
  exact hother path v hlead (shows_iff.mp hshows).1 haddress

/-- **The catalog of a tree without dots in its keys** has one entry for each leaf. -/
theorem flattens_ofTree (code : String) (h : (Toml.table entries).Distinct) (hdots : (Toml.table entries).Undotted) :
    Flattens (.table entries) (ofTree code entries) := by
  constructor
  case get?_iff => exact get?_ofTree_iff code h hdots
  case get?_none => exact fun address => get?_ofTree_eq_none code h hdots
  case get?_table =>
    intro path sub htable hne
    refine get?_ofTree_eq_none code h hdots fun path' v hv hleaf heq => ?_
    obtain ⟨-, rfl⟩ := eq_of_dotted_eq h hdots hv htable (hv.ne_nil hleaf) hne heq
    exact hleaf
  case injective =>
    intro path v path' v' hv hleaf hv' hleaf' heq
    exact eq_of_dotted_eq h hdots hv hv' (hv.ne_nil hleaf) (hv'.ne_nil hleaf') heq
  case one_to_one =>
    exact ⟨_, nodup_leaves h, fun path v => mem_leaves_iff h, (entries_ofTree_perm code h hdots).symm⟩

/-- **Catalogs have one entry for each leaf**, if there are no dots in the keys: the catalog of any tree with distinct
    keys, and that of any document. -/
theorem flattened (code : String) :
    (∀ entries, (Toml.table entries).Distinct → (Toml.table entries).Undotted →
      Flattens (.table entries) (ofTree code entries)) ∧
    ∀ source c, read? code source = some c → ∃ entries,
      (Toml.read? source).bind Toml.revealEntries? = some entries ∧
        ((Toml.table entries).Undotted → Flattens (.table entries) c) := by
  refine ⟨fun entries h hdots => flattens_ofTree code h hdots, fun source c hread => ?_⟩
  obtain ⟨entries, hentries, rfl⟩ := Option.map_eq_some_iff.mp hread
  obtain ⟨written, hwritten, hreveal⟩ := Option.bind_eq_some_iff.mp hentries
  have hdistinct : (Toml.table entries).Distinct := (Toml.distinct_of_read? hwritten).revealEntries? hreveal
  exact ⟨entries, hentries, fun hdots => flattens_ofTree code hdistinct hdots⟩

/-- A tree with empty keys, a list of lines and a truth value. -/
def openingTexts : Toml.Entries :=
  [("open", .boolean true), ("", .table [("", .string "Hi"), ("lines", .array [.string "a", .boolean false])])]

/-- A document with a table that has an empty key. -/
theorem read?_emptyKey :
    (Toml.read? "\"\".open = true").bind Toml.revealEntries? = some [("", .table [("open", .boolean true)])] := by
  have hline : Toml.line? [] [] "\"\".open = true".toList
      = some ([], [("", .table .dotted [("open", .value (.boolean true))])], []) := by
    with_unfolding_all rfl
  have hlines : Toml.lines? [] [] "\"\".open = true".toList
      = some [("", .table .dotted [("open", .value (.boolean true))])] := by
    have hnonempty : "\"\".open = true".toList = '"' :: "\".open = true".toList := rfl
    rw [hnonempty, Toml.lines?, ← hnonempty, hline]
    simp [Toml.lines?]
  exact congrArg (fun b => (b.map Toml.finishEntries).bind Toml.revealEntries?) hlines

/-- The texts of a tree, and those of a document. -/
theorem flattened_openingTexts :
    (Toml.table openingTexts).Distinct ∧ (Toml.table openingTexts).Undotted ∧
    (ofTree "x" openingTexts).get? "open" = some "true" ∧ (ofTree "x" openingTexts).get? "." = some "Hi" ∧
    (ofTree "x" openingTexts).get? ".lines" = some "a\nfalse" ∧ (ofTree "x" openingTexts).get? "" = none ∧
    ∃ c, read? "x" "\"\".open = true" = some c ∧ c.get? ".open" = some "true" := by
  have hleaf {v : Toml} (h : v.IsLeaf) : v.Undotted := h.undotted
  have hkeys : (Toml.table openingTexts).Distinct := by
    simp only [openingTexts, Toml.distinct_table_iff, List.forall_mem_cons]
    exact ⟨by decide, .leaf trivial,
      ⟨by decide, .leaf trivial, .leaf trivial, List.forall_mem_nil _⟩, List.forall_mem_nil _⟩
  have hdots : (Toml.table openingTexts).Undotted := by
    simp only [openingTexts, Toml.undotted_table_iff, List.forall_mem_cons]
    exact ⟨⟨by decide, hleaf trivial⟩, ⟨by decide, ⟨by decide, hleaf trivial⟩, ⟨by decide, hleaf trivial⟩,
      List.forall_mem_nil _⟩, List.forall_mem_nil _⟩
  have hopen : (Toml.table openingTexts).LeadsTo ["open"] (.boolean true) := .through List.mem_cons_self (.here _)
  have hinner : ("", Toml.table [("", .string "Hi"), ("lines", .array [.string "a", .boolean false])]) ∈ openingTexts :=
    List.mem_cons_of_mem _ List.mem_cons_self
  have hhi : (Toml.table openingTexts).LeadsTo ["", ""] (.string "Hi") :=
    .through hinner (.through List.mem_cons_self (.here _))
  have hlines : (Toml.table openingTexts).LeadsTo ["", "lines"] (.array [.string "a", .boolean false]) :=
    .through hinner (.through (List.mem_cons_of_mem _ List.mem_cons_self) (.here _))
  obtain ⟨htree, hdocument⟩ := flattened "x"
  have hflat := htree openingTexts hkeys hdots
  refine ⟨hkeys, hdots, ?_, ?_, ?_, hflat.get?_table [""] _ (.through hinner (.here _)) (List.cons_ne_nil _ _), ?_⟩
  · exact (hflat.get?_iff _ _).mpr ⟨_, _, hopen, shows_iff.mpr ⟨trivial, rfl⟩, rfl⟩
  · exact (hflat.get?_iff _ _).mpr ⟨_, _, hhi, shows_iff.mpr ⟨trivial, rfl⟩, rfl⟩
  · exact (hflat.get?_iff _ _).mpr ⟨_, _, hlines, shows_iff.mpr ⟨trivial, rfl⟩, rfl⟩
  · have hcatalog : read? "x" "\"\".open = true" = some (ofTree "x" [("", .table [("open", .boolean true)])]) :=
      congrArg (Option.map (ofTree "x")) read?_emptyKey
    obtain ⟨entries, hentries, hflat⟩ := hdocument _ _ hcatalog
    obtain rfl := Option.some.inj (read?_emptyKey.symm.trans hentries)
    have hdots : (Toml.table [("", .table [("open", .boolean true)])]).Undotted := by
      simp only [Toml.undotted_table_iff, List.forall_mem_singleton]
      exact ⟨by decide, by decide, hleaf trivial⟩
    have hlead : (Toml.table [("", .table [("open", .boolean true)])]).LeadsTo ["", "open"] (.boolean true) :=
      .through List.mem_cons_self (.through List.mem_cons_self (.here _))
    exact ⟨_, hcatalog, ((hflat hdots).get?_iff _ _).mpr ⟨_, _, hlead, shows_iff.mpr ⟨trivial, rfl⟩, rfl⟩⟩

end Catalog

end Gatehouse
