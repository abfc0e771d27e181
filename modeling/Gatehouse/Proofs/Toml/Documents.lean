import Gatehouse.Proofs.Toml.Paths
import Gatehouse.Toml.Datetime
import Gatehouse.Toml.Reader

/-!
# `Gatehouse.Proofs.Toml.Documents` — tables that are read have distinct keys

A document adds to a tree of tables line by line, and each addition sets the entry of one key of one table. Where it
keeps keys distinct there (`Keeps`), it keeps them distinct in the whole tree (`Keeps.descend?`). So what a document
or an inline table makes has distinct keys at any depth (`distinct_of_read?`), and dates and times that are written as
tables do not change this (`Distinct.reveal?`).
-/

namespace Gatehouse.Toml

variable {b b' : Branch} {key : String} {node : Node} {path : List String} {v : Toml} {entries : Entries}

/-! ## Tables under construction -/

theorem finishEntries_eq_map (b : Branch) : finishEntries b = b.map fun e => (e.1, e.2.finish) := by
  induction b with
  | nil => rfl
  | cons e b ih =>
      rw [finishEntries, ih]
      rfl

/-- What is under construction makes a table with distinct keys. -/
def Branch.Distinct (b : Branch) : Prop :=
  Toml.Distinct (.table (finishEntries b))

theorem Branch.distinct_iff : b.Distinct ↔ (b.map Prod.fst).Nodup ∧ ∀ e ∈ b, Toml.Distinct e.2.finish := by
  rw [Branch.Distinct, distinct_table_iff, finishEntries_eq_map, List.map_map, List.forall_mem_map]
  rfl

theorem Branch.distinct_nil : Branch.Distinct [] :=
  Branch.distinct_iff.mpr ⟨List.nodup_nil, List.forall_mem_nil _⟩

theorem Branch.mem_set {e : String × Node} (h : e ∈ b.set key node) : e = (key, node) ∨ e ∈ b := by
  induction b with
  | nil => exact .inl (List.mem_singleton.mp h)
  | cons first b ih =>
      rw [Branch.set] at h
      split at h
      · rcases List.mem_cons.mp h with rfl | hrest
        · exact .inl rfl
        · exact .inr (List.mem_cons_of_mem _ hrest)
      · rcases List.mem_cons.mp h with rfl | hrest
        · exact .inr List.mem_cons_self
        · exact (ih hrest).imp_right (List.mem_cons_of_mem _)

theorem Branch.nodup_set (h : (b.map Prod.fst).Nodup) : ((b.set key node).map Prod.fst).Nodup := by
  induction b with
  | nil => exact List.nodup_singleton key
  | cons first b ih =>
      obtain ⟨hfirst, hrest⟩ := List.nodup_cons.mp h
      rw [Branch.set]
      split
      · next hkey => exact List.nodup_cons.mpr ⟨hkey ▸ hfirst, hrest⟩
      · next hkey =>
          refine List.nodup_cons.mpr ⟨fun hmem => ?_, ih hrest⟩
          obtain ⟨e, he, hsame⟩ := List.mem_map.mp hmem
          rcases Branch.mem_set he with rfl | he
          · exact hkey hsame.symm
          · exact hfirst (hsame ▸ List.mem_map_of_mem he)

theorem Branch.Distinct.set (h : b.Distinct) (hnode : Toml.Distinct node.finish) : (b.set key node).Distinct := by
  obtain ⟨hkeys, hvalues⟩ := Branch.distinct_iff.mp h
  refine Branch.distinct_iff.mpr ⟨Branch.nodup_set hkeys, fun e he => ?_⟩
  rcases Branch.mem_set he with rfl | he
  · exact hnode
  · exact hvalues e he

theorem Branch.Distinct.erase (h : b.Distinct) (key : String) : (b.erase key).Distinct := by
  obtain ⟨hkeys, hvalues⟩ := Branch.distinct_iff.mp h
  refine Branch.distinct_iff.mpr ⟨?_, fun e he => hvalues e (List.mem_of_mem_filter he)⟩
  exact (List.filter_sublist.map Prod.fst).nodup hkeys

theorem Branch.Distinct.of_lookup (h : b.Distinct) (hfound : b.lookup key = some node) : Toml.Distinct node.finish := by
  obtain ⟨before, after, rfl, -⟩ := List.lookup_eq_some_iff.mp hfound
  exact (Branch.distinct_iff.mp h).2 _ (List.mem_append_right before List.mem_cons_self)

/-! ## Additions -/

/-- The change leaves keys distinct. -/
def Keeps (change : Origin → Branch → Option Branch) : Prop :=
  ∀ origin b b', Branch.Distinct b → change origin b = some b' → b'.Distinct

/-- An array of tables is an array, whatever is added to its tables. -/
theorem distinct_finish_tables (elements : List Branch) : Toml.Distinct (Node.tables elements).finish :=
  .leaf trivial

/-- **What keeps keys distinct in one table keeps them distinct further up.** -/
theorem Keeps.descend? {change : Origin → Branch → Option Branch} (h : Keeps change) (byKey : Bool)
    (path : List String) : Keeps (descend? byKey change path) := by
  induction path with
  | nil => exact h
  | cons key path ih =>
      intro origin b b' hb hchange
      simp only [Toml.descend?] at hchange
      split at hchange
      case h_1 =>
        obtain ⟨sub, hsub, rfl⟩ := Option.map_eq_some_iff.mp hchange
        exact hb.set (ih _ _ _ Branch.distinct_nil hsub)
      case h_2 => cases hchange
      case h_3 origin' sub hfound =>
        split at hchange
        · cases hchange
        · obtain ⟨sub', hsub, rfl⟩ := Option.map_eq_some_iff.mp hchange
          exact hb.set (ih _ _ _ (hb.of_lookup hfound) hsub)
      case h_4 => cases hchange
      case h_5 =>
        obtain ⟨sub', -, rfl⟩ := Option.map_eq_some_iff.mp hchange
        exact hb.set (distinct_finish_tables _)

theorem keeps_place? (hv : Distinct v) (path : List String) : Keeps (place? path v) := by
  intro origin b b' hb hplace
  simp only [place?] at hplace
  split at hplace
  · cases hplace
  · refine Keeps.descend? ?_ true _ origin b b' hb hplace
    intro origin b b' hb hput
    dsimp only at hput
    split at hput
    · cases hput
    · split at hput
      · cases hput
      · rw [← Option.some.inj hput]
        exact hb.set hv

theorem Branch.Distinct.openTable? (h : b.Distinct) (hopen : openTable? path b = some b') : b'.Distinct := by
  simp only [Toml.openTable?] at hopen
  split at hopen
  · cases hopen
  · refine Keeps.descend? ?_ false _ _ b b' h hopen
    intro origin b b' hb hdefine
    dsimp only at hdefine
    split at hdefine
    · rw [← Option.some.inj hdefine]
      exact hb.set Branch.distinct_nil
    · next sub hfound =>
        have hsub : Branch.Distinct sub := hb.of_lookup hfound
        rw [← Option.some.inj hdefine]
        exact (hb.erase _).set hsub
    · cases hdefine

theorem Branch.Distinct.openElement? (h : b.Distinct) (hopen : openElement? path b = some b') : b'.Distinct := by
  simp only [Toml.openElement?] at hopen
  split at hopen
  · cases hopen
  · refine Keeps.descend? ?_ false _ _ b b' h hopen
    intro origin b b' hb hextend
    dsimp only at hextend
    split at hextend
    · rw [← Option.some.inj hextend]
      exact hb.set (distinct_finish_tables _)
    · rw [← Option.some.inj hextend]
      exact hb.set (distinct_finish_tables _)
    · cases hextend

theorem Branch.Distinct.addLine? (h : b.Distinct) (hv : Toml.Distinct v) {header : List String}
    (hadd : addLine? header path v b = some b') : b'.Distinct :=
  (keeps_place? hv path).descend? false header _ b b' h hadd

theorem distinct_of_inlineBranch? {lines : List (List String × Toml)} (hlines : ∀ line ∈ lines, Distinct line.2)
    (h : inlineBranch? lines = some b) : b.Distinct := by
  suffices hfrom : ∀ start : Branch, start.Distinct →
      lines.foldlM (fun b line => place? line.1 line.2 .defined b) start = some b → b.Distinct from
    hfrom [] Branch.distinct_nil h
  clear h
  induction lines with
  | nil =>
      intro start hstart h
      rw [← Option.some.inj h]
      exact hstart
  | cons line lines ih =>
      intro start hstart h
      obtain ⟨hline, hrest⟩ := List.forall_mem_cons.mp hlines
      rw [List.foldlM_cons] at h
      obtain ⟨next, hplace, h⟩ := Option.bind_eq_some_iff.mp h
      exact ih hrest next (keeps_place? hline _ _ _ _ hstart hplace) h

/-! ## Values -/

theorem isLeaf_of_scalar? {word : List Char} (h : scalar? word = some v) : IsLeaf v := by
  simp only [scalar?] at h
  split at h
  · cases h
    trivial
  · split at h
    · cases h
      trivial
    · split at h
      · cases h
        trivial
      · split at h
        · cases h
          trivial
        · obtain ⟨x, -, rfl⟩ := Option.map_eq_some_iff.mp h
          trivial

theorem isLeaf_of_items? {value : List Char → Option (Toml × List Char)} {acc : List Toml} {cs rest : List Char}
    (h : items? value acc cs = some (v, rest)) : IsLeaf v := by
  induction hlength : cs.length using Nat.strongRecOn generalizing acc cs with
  | _ length ih =>
      rw [items?] at h
      split at h
      case h_1 => cases h
      case h_2 =>
        cases h
        trivial
      case h_3 =>
        split at h
        · cases h
        · split at h
          · split at h
            · next hshorter => exact ih _ (hlength ▸ hshorter) h rfl
            · cases h
          · cases h
            trivial
          · cases h

theorem distinct_of_members? {value : List Char → Option (Toml × List Char)} {acc : List (List String × Toml)}
    {cs rest : List Char} (hvalue : ∀ cs v rest, value cs = some (v, rest) → Distinct v)
    (hacc : ∀ line ∈ acc, Distinct line.2) (h : members? value acc cs = some (v, rest)) : Distinct v := by
  induction hlength : cs.length using Nat.strongRecOn generalizing acc cs with
  | _ length ih =>
      rw [members?] at h
      split at h
      · split at h
        · cases h
        · next path _ _ _ w _ hw =>
            have hlines : ∀ line ∈ (path, w) :: acc, Distinct line.2 :=
              List.forall_mem_cons.mpr ⟨hvalue _ _ _ hw, hacc⟩
            split at h
            · split at h
              · next hshorter => exact ih _ (hlength ▸ hshorter) hlines h rfl
              · cases h
            · obtain ⟨b, hb, hv⟩ := Option.map_eq_some_iff.mp h
              rw [← (Prod.mk.inj hv).1]
              exact distinct_of_inlineBranch? (fun line hline => hlines line (List.mem_reverse.mp hline)) hb
            · cases h
      · cases h

/-- **Values have distinct keys.** -/
theorem distinct_of_value? {depth : Nat} {cs rest : List Char} (h : value? depth cs = some (v, rest)) :
    Distinct v := by
  induction depth using Nat.strongRecOn generalizing cs v rest with
  | _ depth ih =>
      have hstring {text : List Char}
          (h : (quotedString? text).map (fun read => (Toml.string read.1, read.2)) = some (v, rest)) : Distinct v := by
        obtain ⟨read, -, heq⟩ := Option.map_eq_some_iff.mp h
        rw [← (Prod.mk.inj heq).1]
        exact .leaf trivial
      rw [value?.eq_def] at h
      split at h
      case h_1 => exact hstring h
      case h_2 => exact hstring h
      case h_3 => exact .leaf (isLeaf_of_items? h)
      case h_4 depth _ =>
        split at h
        · obtain ⟨rfl, -⟩ := Prod.mk.inj (Option.some.inj h)
          exact .table List.nodup_nil (List.forall_mem_nil _)
        · exact distinct_of_members? (fun cs v rest hv => ih depth (Nat.lt_succ_self depth) hv)
            (List.forall_mem_nil _) h
      case h_5 =>
        obtain ⟨w, hw, heq⟩ := Option.map_eq_some_iff.mp h
        rw [← (Prod.mk.inj heq).1]
        exact .leaf (isLeaf_of_scalar? hw)

/-! ## Documents -/

/-- A line of a document leaves keys distinct. -/
theorem Branch.Distinct.line? {header header' : List String} {cs rest : List Char} (h : b.Distinct)
    (hline : line? header b cs = some (header', b', rest)) : b'.Distinct := by
  rw [Toml.line?] at hline
  split at hline
  all_goals
    simp only [Option.bind_eq_bind, Option.bind_eq_some_iff, Option.map_eq_some_iff, Option.pure_def, Option.some.injEq,
      Prod.mk.injEq] at hline
  case h_1 =>
    obtain ⟨_, -, _, -, _, -, root, hopen, -, rfl, -⟩ := hline
    exact h.openElement? hopen
  case h_2 =>
    obtain ⟨_, -, _, -, _, -, root, hopen, -, rfl, -⟩ := hline
    exact h.openTable? hopen
  case h_3 =>
    obtain ⟨-, rfl, -⟩ := hline
    exact h
  case h_4 =>
    obtain ⟨-, rfl, -⟩ := hline
    exact h
  case h_5 =>
    obtain ⟨_, -, -, rfl, -⟩ := hline
    exact h
  case h_6 =>
    obtain ⟨_, -, _, -, ⟨v, _⟩, hv, _, -, root, hadd, -, rfl, -⟩ := hline
    exact h.addLine? (distinct_of_value? hv) hadd

theorem Branch.Distinct.lines? {header : List String} {cs : List Char} (h : b.Distinct)
    (hlines : lines? header b cs = some b') : b'.Distinct := by
  induction hlength : cs.length using Nat.strongRecOn generalizing header b cs with
  | _ length ih =>
      cases cs with
      | nil => 
        rw [Toml.lines?] at hlines
        rw [← Option.some.inj hlines]
        exact h
      | cons c cs =>
        rw [Toml.lines?] at hlines
        split at hlines
        · cases hlines
        · next hline =>
            split at hlines
            · next hshorter => exact ih _ (hlength ▸ hshorter) (h.line? hline) hlines rfl
            · cases hlines

/-- **Documents have distinct keys.** -/
theorem distinct_of_read? {text : String} (h : read? text = some entries) : Distinct (.table entries) := by
  obtain ⟨b, hb, rfl⟩ := Option.map_eq_some_iff.mp h
  exact Branch.distinct_nil.lines? hb

/-! ## Dates and times that are written as tables -/

theorem reveal?_table_cons (e : String × Toml) (entries : Entries) :
    reveal? (.table (e :: entries))
      = if e.1 = datetimeMember then datetimeOf? e.2 else (revealEntries? (e :: entries)).map .table := by
  obtain ⟨key, v⟩ := e
  simp only [reveal?, revealEntries?, Option.bind_eq_bind, Option.pure_def, Option.map_bind, Function.comp_def,
    Option.map_some]

theorem isLeaf_of_datetimeOf? {w : Toml} (h : datetimeOf? v = some w) : IsLeaf w := by
  unfold datetimeOf? at h
  split at h
  · obtain ⟨text, -, rfl⟩ := Option.map_eq_some_iff.mp h
    trivial
  · cases h

theorem IsLeaf.reveal? (h : IsLeaf v) {w : Toml} (hw : reveal? v = some w) : IsLeaf w := by
  cases v with
  | table => exact h.elim
  | array items =>
      obtain ⟨items', -, rfl⟩ := Option.map_eq_some_iff.mp hw
      trivial
  | _ =>
      rw [← Option.some.inj hw]
      exact h

/-- The keys stay, each with what its value stands for. -/
theorem of_revealEntries? {entries' : Entries} (h : revealEntries? entries = some entries') :
    entries'.map Prod.fst = entries.map Prod.fst ∧ ∀ e' ∈ entries', ∃ e ∈ entries, reveal? e.2 = some e'.2 := by
  induction entries generalizing entries' with
  | nil =>
      rw [← Option.some.inj h]
      exact ⟨rfl, List.forall_mem_nil _⟩
  | cons e entries ih =>
      simp only [revealEntries?, Option.bind_eq_bind, Option.bind_eq_some_iff, Option.pure_def, Option.some.injEq] at h
      obtain ⟨v, hv, rest, hrest, rfl⟩ := h
      obtain ⟨hkeys, hvalues⟩ := ih hrest
      refine ⟨congrArg (e.1 :: ·) hkeys, List.forall_mem_cons.mpr ⟨⟨e, List.mem_cons_self, hv⟩, ?_⟩⟩
      intro e' he'
      obtain ⟨e'', hmem, hvalue⟩ := hvalues e' he'
      exact ⟨e'', List.mem_cons_of_mem _ hmem, hvalue⟩

/-- **A table whose dates and times are put in their places keeps distinct keys.** -/
theorem distinct_of_revealEntries? {entries' : Entries} (hkeys : (entries.map Prod.fst).Nodup)
    (hvalues : ∀ e ∈ entries, ∀ w, reveal? e.2 = some w → Distinct w) (h : revealEntries? entries = some entries') :
    Distinct (.table entries') := by
  obtain ⟨hsame, hof⟩ := of_revealEntries? h
  refine .table (hsame ▸ hkeys) fun e' he' => ?_
  obtain ⟨e, he, hreveal⟩ := hof e' he'
  exact hvalues e he _ hreveal

theorem Distinct.reveal? (h : Distinct v) : ∀ w, reveal? v = some w → Distinct w := by
  induction h with
  | leaf hleaf => exact fun w hw => .leaf (hleaf.reveal? hw)
  | @table entries hkeys _ ih =>
      intro w hw
      cases entries with
      | nil =>
          rw [← Option.some.inj hw]
          exact .table List.nodup_nil (List.forall_mem_nil _)
      | cons e entries =>
          rw [reveal?_table_cons] at hw
          split at hw
          · exact .leaf (isLeaf_of_datetimeOf? hw)
          · obtain ⟨entries', hentries, rfl⟩ := Option.map_eq_some_iff.mp hw
            exact distinct_of_revealEntries? hkeys ih hentries

theorem Distinct.revealEntries? (h : Distinct (.table entries)) {entries' : Entries}
    (hreveal : revealEntries? entries = some entries') : Distinct (.table entries') := by
  obtain ⟨hkeys, hvalues⟩ := distinct_table_iff.mp h
  exact distinct_of_revealEntries? hkeys (fun e he => (hvalues e he).reveal?) hreveal

end Gatehouse.Toml
