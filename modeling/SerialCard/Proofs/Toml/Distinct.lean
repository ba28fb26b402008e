import Mathlib.Data.List.Nodup
import SerialCard.Toml.Document

/-!
# Keys stand once

`Value.Distinct` are the values in which no table has a key twice, however deep it lies. In such a
table, to look a key up is to find its one entry (`lookup_eq_some_iff`).

Documents are of this kind (`Document.read?_distinct`). A table comes about by headers, by dotted
keys and by assignments in braces; each of them writes into a tree under construction, and nothing
that writes into it brings in a key that is there already (`Node.Fields.Distinct`).
-/

namespace SerialCard.Toml

/-- No table in the value has a key twice. -/
inductive Value.Distinct : Value → Prop
  | text (s : String) : Distinct (.text s)
  | integer (n : Int) : Distinct (.integer n)
  | float (x : Binary64) : Distinct (.float x)
  | boolean (b : Bool) : Distinct (.boolean b)
  | moment (written : String) : Distinct (.moment written)
  | array {items : List Value} (h : ∀ v ∈ items, v.Distinct) : Distinct (.array items)
  | table {entries : Entries} (hkeys : (entries.map Prod.fst).Nodup)
      (h : ∀ e ∈ entries, e.2.Distinct) : Distinct (.table entries)

namespace Value

attribute [simp] Distinct.text Distinct.integer Distinct.float Distinct.boolean Distinct.moment

@[simp]
theorem distinct_array {items : List Value} :
    (array items).Distinct ↔ ∀ v ∈ items, v.Distinct :=
  ⟨fun | .array h => h, .array⟩

@[simp]
theorem distinct_table {entries : Entries} :
    (table entries).Distinct ↔ (entries.map Prod.fst).Nodup ∧ ∀ e ∈ entries, e.2.Distinct :=
  ⟨fun | .table hkeys h => ⟨hkeys, h⟩, fun ⟨hkeys, h⟩ => .table hkeys h⟩

theorem Distinct.keys {entries : Entries} (h : (Value.table entries).Distinct) :
    (entries.map Prod.fst).Nodup :=
  (distinct_table.mp h).1

end Value

/-- A key that stands once is looked up by its entry. -/
theorem lookup_eq_some_iff {β : Type} {entries : List (String × β)}
    (hkeys : (entries.map Prod.fst).Nodup) {key : String} {v : β} :
    entries.lookup key = some v ↔ (key, v) ∈ entries := by
  induction entries with
  | nil => simp only [List.lookup_nil, reduceCtorEq, List.not_mem_nil]
  | cons entry rest ih =>
    obtain ⟨hnot, hrest⟩ := List.nodup_cons.mp hkeys
    by_cases hkey : entry.1 = key
    · -- the key does not come again
      have hnone : (key, v) ∉ rest := fun hmem => hnot (hkey ▸ List.mem_map_of_mem hmem)
      obtain ⟨k, w⟩ := entry
      subst hkey
      rw [List.lookup_cons_self, List.mem_cons, or_iff_left hnone, Prod.mk.injEq, Option.some.injEq,
        eq_comm, and_iff_right rfl]
    · obtain ⟨k, w⟩ := entry
      have hne : (key == k) = false := beq_false_of_ne (Ne.symm hkey)
      rw [List.lookup_cons, hne, List.mem_cons]
      rw [ih hrest, or_iff_right]
      rintro ⟨⟩
      exact hkey rfl

theorem Value.Distinct.of_lookup {entries : Entries} (h : (Value.table entries).Distinct)
    {key : String} {v : Value} (hlookup : entries.lookup key = some v) : v.Distinct :=
  (Value.distinct_table.mp h).2 _ ((lookup_eq_some_iff h.keys).mp hlookup)

/-! ### Trees under construction -/

namespace Node

/-- No table in the part has a key twice. -/
inductive Distinct : Node → Prop
  | value {v : Value} (h : v.Distinct) : Distinct (value v)
  | table {implied dotted : Bool} {entries : Fields} (hkeys : (entries.map Prod.fst).Nodup)
      (h : ∀ e ∈ entries, e.2.Distinct) : Distinct (table implied dotted entries)
  | tables {last : Fields} {before : List Node} (hkeys : (last.map Prod.fst).Nodup)
      (hlast : ∀ e ∈ last, e.2.Distinct) (hbefore : ∀ n ∈ before, n.Distinct) :
      Distinct (tables last before)

/-- No table has a key twice, neither this one nor one in it. -/
structure Fields.Distinct (fields : Fields) : Prop where
  keys : (fields.map Prod.fst).Nodup
  nodes : ∀ e ∈ fields, e.2.Distinct

theorem Fields.distinct_nil : Fields.Distinct [] :=
  ⟨List.nodup_nil, fun _ he => absurd he List.not_mem_nil⟩

variable {fields fields' : Fields}

/-- To modify the node of a key adds no key but this one. -/
theorem Fields.Distinct.modify {key : String} {f : Option Node → Option Node}
    (h : Fields.Distinct fields)
    (hf : ∀ found node, (∀ n, found = some n → n.Distinct) → f found = some node → node.Distinct)
    (hmodify : modify key f fields = some fields') :
    Fields.Distinct fields' ∧ ∀ k ∈ fields'.map Prod.fst, k = key ∨ k ∈ fields.map Prod.fst := by
  induction fields generalizing fields' with
  | nil =>
    obtain ⟨node, hnode, rfl⟩ := Option.map_eq_some_iff.mp hmodify
    refine ⟨⟨List.nodup_singleton key, fun e he => ?_⟩, fun k hk => .inl (List.mem_singleton.mp hk)⟩
    obtain rfl := List.mem_singleton.mp he
    exact hf none node (fun n hn => nomatch hn) hnode
  | cons entry rest ih =>
    obtain ⟨k, node⟩ := entry
    obtain ⟨hnot, hkeys⟩ := List.nodup_cons.mp h.keys
    have hrest : Fields.Distinct rest := ⟨hkeys, fun e he => h.nodes e (List.mem_cons_of_mem _ he)⟩
    have hnode : node.Distinct := h.nodes (k, node) List.mem_cons_self
    rw [Node.modify] at hmodify
    split at hmodify
    · obtain ⟨new, hnew, rfl⟩ := Option.map_eq_some_iff.mp hmodify
      have hdistinct := hf (some node) new (fun n hn => Option.some.inj hn ▸ hnode) hnew
      refine ⟨⟨h.keys, fun e he => ?_⟩, fun k' hk' => .inr hk'⟩
      rcases List.mem_cons.mp he with rfl | he
      · exact hdistinct
      · exact hrest.nodes e he
    · next hkey =>
      obtain ⟨rest', hrest', rfl⟩ := Option.map_eq_some_iff.mp hmodify
      obtain ⟨hdistinct, hsub⟩ := ih hrest hrest'
      refine ⟨⟨List.nodup_cons.mpr ⟨fun hmem => ?_, hdistinct.keys⟩, fun e he => ?_⟩,
        fun k' hk' => ?_⟩
      · rcases hsub k hmem with heq | hmem
        · exact hkey heq
        · exact hnot hmem
      · rcases List.mem_cons.mp he with rfl | he
        · exact hnode
        · exact hdistinct.nodes e he
      · rcases List.mem_cons.mp hk' with rfl | hk'
        · exact .inr List.mem_cons_self
        · exact (hsub k' hk').imp_right (List.mem_cons_of_mem k)

/-- What is written into a table that keys lead to keeps keys distinct if the writing does. -/
theorem Fields.Distinct.descend {dotted here : Bool} {write : Bool → Fields → Option Fields}
    {path : List String}
    (hwrite : ∀ {here fields fields'}, Fields.Distinct fields → write here fields = some fields' →
      Fields.Distinct fields')
    (h : Fields.Distinct fields) (hdescend : descend dotted write path here fields = some fields') :
    Fields.Distinct fields' := by
  induction path generalizing here fields fields' with
  | nil => exact hwrite h hdescend
  | cons key path ih =>
    rw [Node.descend] at hdescend
    refine (h.modify (fun found node hfound hnode => ?_) hdescend).1
    cases found with
    | none =>
      obtain ⟨inner, hinner, rfl⟩ := Option.map_eq_some_iff.mp hnode
      obtain ⟨hkeys, hnodes⟩ := ih Fields.distinct_nil hinner
      exact .table hkeys hnodes
    | some n =>
      have hn := hfound n rfl
      cases hn with
      | value hv => cases hnode
      | tables hkeys hlast hbefore =>
        obtain ⟨inner, hinner, rfl⟩ := Option.map_eq_some_iff.mp hnode
        obtain ⟨hkeys', hnodes⟩ := ih ⟨hkeys, hlast⟩ hinner
        exact .tables hkeys' hnodes hbefore
      | @table implied made entries hkeys hentries =>
        simp only at hnode
        split at hnode
        · cases hnode
        · obtain ⟨inner, hinner, rfl⟩ := Option.map_eq_some_iff.mp hnode
          obtain ⟨hkeys', hnodes⟩ := ih ⟨hkeys, hentries⟩ hinner
          exact .table hkeys' hnodes

theorem Fields.Distinct.assign {path : List String} {key : String} {v : Value}
    (h : Fields.Distinct fields) (hv : v.Distinct)
    (hassign : assign path key v fields = some fields') : Fields.Distinct fields' := by
  refine h.descend (fun {here inner inner'} hinner hwrite => ?_) hassign
  split at hwrite
  · cases hwrite
  · refine (hinner.modify (fun found node _ hnode => ?_) hwrite).1
    split at hnode
    · cases hnode
    · obtain rfl := Option.some.inj hnode
      exact .value hv

/-- A table whose key is new comes last. -/
theorem Fields.Distinct.concat {key : String} {node : Node} (h : Fields.Distinct fields)
    (hkey : key ∉ fields.map Prod.fst) (hnode : node.Distinct) :
    Fields.Distinct (fields ++ [(key, node)]) := by
  refine ⟨?_, fun e he => ?_⟩
  · rw [List.map_append]
    exact h.keys.append (List.nodup_singleton key)
      (List.disjoint_singleton.mpr hkey)
  · rcases List.mem_append.mp he with he | he
    · exact h.nodes e he
    · obtain rfl := List.mem_singleton.mp he
      exact hnode

theorem Fields.Distinct.open? {path : List String} {key : String} (h : Fields.Distinct fields)
    (hopen : open? path key fields = some fields') : Fields.Distinct fields' := by
  refine h.descend (fun {here inner inner'} hinner hwrite => ?_) hopen
  split at hwrite
  · next hlookup =>
    obtain rfl := Option.some.inj hwrite
    refine hinner.concat (fun hmem => ?_) (.table List.nodup_nil Fields.distinct_nil.nodes)
    obtain ⟨e, he, hkey⟩ := List.mem_map.mp hmem
    exact bne_iff_ne.mp (List.lookup_eq_none_iff.mp hlookup e he) hkey.symm
  · next entries hlookup =>
    obtain rfl := Option.some.inj hwrite
    -- the table that was implied so far moves to the end
    have hothers : Fields.Distinct (without key inner) :=
      ⟨hinner.keys.sublist (List.filter_sublist.map _),
        fun e he => hinner.nodes e (List.mem_filter.mp he).1⟩
    refine hothers.concat (fun hmem => ?_) ?_
    · obtain ⟨e, he, hkey⟩ := List.mem_map.mp hmem
      exact bne_iff_ne.mp (List.mem_filter.mp he).2 hkey
    · cases hinner.nodes _ ((lookup_eq_some_iff hinner.keys).mp hlookup) with
      | table hkeys hentries => exact .table hkeys hentries
  · cases hwrite

theorem Fields.Distinct.append? {path : List String} {key : String} (h : Fields.Distinct fields)
    (happend : append? path key fields = some fields') : Fields.Distinct fields' := by
  refine h.descend (fun {here inner inner'} hinner hwrite => ?_) happend
  refine (hinner.modify (fun found node hfound hnode => ?_) hwrite).1
  cases found with
  | none =>
    obtain rfl := Option.some.inj hnode
    exact .tables List.nodup_nil Fields.distinct_nil.nodes fun _ hn => absurd hn List.not_mem_nil
  | some n =>
    have hn := hfound n rfl
    cases hn with
    | value hv => cases hnode
    | table hkeys hentries => cases hnode
    | tables hkeys hlast hbefore =>
      obtain rfl := Option.some.inj hnode
      refine .tables List.nodup_nil Fields.distinct_nil.nodes fun n hn => ?_
      rcases List.mem_cons.mp hn with rfl | hn
      · exact .table hkeys hlast
      · exact hbefore n hn

theorem finishFields_eq_map (fields : Fields) :
    finishFields fields = fields.map fun e => (e.1, e.2.finish) := by
  induction fields with
  | nil => rfl
  | cons e rest ih => rw [finishFields, ih, List.map_cons]

theorem finishAll_eq_map (nodes : List Node) : finishAll nodes = nodes.map finish := by
  induction nodes with
  | nil => rfl
  | cons n rest ih => rw [finishAll, ih, List.map_cons]

/-- Finished tables have the keys they had. -/
theorem distinct_finishFields (hkeys : (fields.map Prod.fst).Nodup)
    (h : ∀ e ∈ fields, (finish e.2).Distinct) : (Value.table (finishFields fields)).Distinct := by
  rw [finishFields_eq_map]
  refine .table ?_ fun e he => ?_
  · rwa [List.map_map]
  · obtain ⟨e', he', rfl⟩ := List.mem_map.mp he
    exact h e' he'

theorem Distinct.finish {n : Node} (h : n.Distinct) : n.finish.Distinct := by
  induction h with
  | value hv => exact hv
  | table hkeys _ ih => exact distinct_finishFields hkeys ih
  | tables hkeys _ _ ihlast ihbefore =>
    refine .array fun v hv => ?_
    rw [finishAll_eq_map] at hv
    rcases List.mem_append.mp hv with hv | hv
    · obtain ⟨n, hn, rfl⟩ := List.mem_map.mp (List.mem_reverse.mp hv)
      exact ihbefore n hn
    · obtain rfl := List.mem_singleton.mp hv
      exact distinct_finishFields hkeys ihlast

theorem Fields.Distinct.finish (h : Fields.Distinct fields) :
    (Value.table (finishFields fields)).Distinct :=
  distinct_finishFields h.keys fun e he => (h.nodes e he).finish

end Node

/-! ### Values that are read -/

/-- What a scan of items reads are items. -/
theorem Scan.mem_list {α : Type} {blank : List Char → Option (List Char)} {item : Scan α}
    {trailing first : Bool} {closing : Char} {s rest : List Char} {items : List α}
    (h : Scan.list blank item trailing closing first s = some (items, rest)) :
    ∀ a ∈ items, ∃ t u, item t = some (a, u) := by
  fun_induction Scan.list blank item trailing closing first s generalizing items rest with
  | case2 =>
    obtain ⟨rfl, -⟩ := Prod.mk.inj (Option.some.inj h)
    exact fun _ ha => absurd ha List.not_mem_nil
  | case6 first s t ht hopen a u hitem =>
    obtain ⟨rfl, -⟩ := Prod.mk.inj (Option.some.inj h)
    intro b hb
    obtain rfl := List.mem_singleton.mp hb
    exact ⟨t, u, hitem⟩
  | case7 first s t ht hopen a u hitem w hw hcomma hclose hlt hshort ih =>
    obtain ⟨⟨others, rest'⟩, hothers, heq⟩ := Option.map_eq_some_iff.mp h
    obtain ⟨rfl, -⟩ := Prod.mk.inj heq
    intro b hb
    rcases List.mem_cons.mp hb with rfl | hb
    · exact ⟨t, u, hitem⟩
    · exact ih hothers b hb
  | _ => cases h

namespace Number

variable {s rest : List Char} {v : Value}

theorem integer?_distinct {n : Int} (h : integer? n = some v) : v.Distinct := by
  rw [integer?] at h
  split at h
  · obtain rfl := Option.some.inj h
    exact .integer n
  · cases h

theorem float?_distinct {negative : Bool} {worth : Nat} {power : Int}
    (h : float? negative worth power = some v) : v.Distinct := by
  rw [float?] at h
  split at h
  · cases h
  · obtain rfl := Option.some.inj h
    exact .float _

theorem based_distinct {base : Nat} (h : based base s = some (v, rest)) : v.Distinct := by
  rw [based] at h
  split at h
  · cases h
  · obtain ⟨v', hv', heq⟩ := Option.map_eq_some_iff.mp h
    obtain ⟨rfl, -⟩ := Prod.mk.inj heq
    exact integer?_distinct hv'

private theorem map_float?_distinct {negative : Bool} {worth : Nat} {power : Int} {t : List Char}
    (h : (float? negative worth power).map (fun x => (x, t)) = some (v, rest)) : v.Distinct := by
  obtain ⟨v', hv', heq⟩ := Option.map_eq_some_iff.mp h
  obtain ⟨rfl, -⟩ := Prod.mk.inj heq
  exact float?_distinct hv'

theorem afterWhole_distinct {negative : Bool} {whole : Nat}
    (h : afterWhole negative whole s = some (v, rest)) : v.Distinct := by
  rw [afterWhole.eq_def] at h
  split at h
  · split at h
    · cases h
    · -- digits after a point, with an exponent or without
      dsimp only at h
      split at h
      · obtain ⟨⟨e, t⟩, -, hfloat⟩ := Option.bind_eq_some_iff.mp h
        exact map_float?_distinct hfloat
      · obtain ⟨⟨e, t⟩, -, hfloat⟩ := Option.bind_eq_some_iff.mp h
        exact map_float?_distinct hfloat
      · exact map_float?_distinct h
  · obtain ⟨⟨e, t⟩, -, hfloat⟩ := Option.bind_eq_some_iff.mp h
    exact map_float?_distinct hfloat
  · obtain ⟨⟨e, t⟩, -, hfloat⟩ := Option.bind_eq_some_iff.mp h
    exact map_float?_distinct hfloat
  · obtain ⟨v', hv', heq⟩ := Option.map_eq_some_iff.mp h
    obtain ⟨rfl, -⟩ := Prod.mk.inj heq
    exact integer?_distinct hv'

theorem any?_distinct (h : any? s = some (v, rest)) : v.Distinct := by
  rw [any?.eq_def] at h
  split at h
  · exact based_distinct h
  · exact based_distinct h
  · exact based_distinct h
  · dsimp only at h
    split at h
    · obtain ⟨rfl, -⟩ := Prod.mk.inj (Option.some.inj h)
      exact .float _
    · obtain ⟨rfl, -⟩ := Prod.mk.inj (Option.some.inj h)
      exact .float _
    · obtain ⟨⟨n, t⟩, -, hwhole⟩ := Option.bind_eq_some_iff.mp h
      exact afterWhole_distinct hwhole

end Number

theorem scalar_distinct {s rest : List Char} {v : Value} (h : scalar s = some (v, rest)) :
    v.Distinct := by
  rw [scalar.eq_def] at h
  have htext {t : List Char} (h : (Text.any? t).map (fun p => (Value.text p.1, p.2)) =
      some (v, rest)) : v.Distinct := by
    obtain ⟨⟨x, u⟩, -, heq⟩ := Option.map_eq_some_iff.mp h
    obtain ⟨rfl, -⟩ := Prod.mk.inj heq
    exact .text x
  split at h
  · obtain ⟨rfl, -⟩ := Prod.mk.inj (Option.some.inj h)
    exact .boolean true
  · obtain ⟨rfl, -⟩ := Prod.mk.inj (Option.some.inj h)
    exact .boolean false
  · exact htext h
  · exact htext h
  · split at h
    · simp only [Moment.any?] at h
      -- a date and a time of day are moments alike
      split at h <;>
      · obtain ⟨t, -, heq⟩ := Option.bind_eq_some_iff.mp h
        obtain ⟨rfl, -⟩ := Prod.mk.inj (Option.some.inj heq)
        exact .moment _
    · exact Number.any?_distinct h

/-- The value of an assignment is one that was read. -/
theorem exists_of_assignment {scan : Scan Value} {s rest : List Char} {a : Assignment}
    (h : assignment scan s = some (a, rest)) : ∃ t u, scan t = some (a.value, u) := by
  simp only [assignment, Option.bind_eq_bind, Option.bind_eq_some_iff] at h
  obtain ⟨⟨keys, t⟩, -, key, -, u, -, ⟨v, w⟩, hv, heq⟩ := h
  obtain ⟨rfl, -⟩ := Prod.mk.inj (Option.some.inj heq)
  exact ⟨_, w, hv⟩

/-- What each step keeps holds after all of them. -/
private theorem foldlM_invariant {α β : Type} {f : β → α → Option β} {P : β → Prop} {l : List α}
    (hstep : ∀ b a b', a ∈ l → P b → f b a = some b' → P b') {start final : β} (hstart : P start)
    (h : l.foldlM f start = some final) : P final := by
  induction l generalizing start with
  | nil =>
    obtain rfl := Option.some.inj h
    exact hstart
  | cons a rest ih =>
    rw [List.foldlM_cons] at h
    obtain ⟨middle, hmiddle, hrest⟩ := Option.bind_eq_some_iff.mp h
    exact ih (fun b a' b' ha' => hstep b a' b' (List.mem_cons_of_mem a ha'))
      (hstep start a middle List.mem_cons_self hstart hmiddle) hrest

/-- The table of assignments has the keys assigned, each once. -/
theorem inlineTable?_distinct {assignments : List Assignment}
    (hvalues : ∀ a ∈ assignments, a.value.Distinct) {v : Value}
    (h : inlineTable? assignments = some v) : v.Distinct := by
  obtain ⟨fields, hfields, rfl⟩ := Option.map_eq_some_iff.mp h
  refine Node.Fields.Distinct.finish (foldlM_invariant (fun fields a fields' ha h hassign => ?_)
    Node.Fields.distinct_nil hfields)
  exact Node.Fields.Distinct.assign h (hvalues a ha) hassign

/-- Values are read without a key that stands twice. -/
theorem value_distinct {room : Nat} {s rest : List Char} {v : Value}
    (h : value room s = some (v, rest)) : v.Distinct := by
  induction room generalizing s v rest with
  | zero => exact scalar_distinct h
  | succ room ih =>
    rw [value.eq_def] at h
    dsimp only at h
    split at h
    · obtain ⟨⟨items, t⟩, hitems, heq⟩ := Option.map_eq_some_iff.mp h
      obtain ⟨rfl, -⟩ := Prod.mk.inj heq
      refine .array fun v hv => ?_
      obtain ⟨t', u, hread⟩ := Scan.mem_list hitems v hv
      exact ih hread
    · simp only [Option.bind_eq_bind, Option.bind_eq_some_iff] at h
      obtain ⟨⟨assignments, t⟩, hassignments, v', hv', heq⟩ := h
      obtain ⟨rfl, -⟩ := Prod.mk.inj (Option.some.inj heq)
      refine inlineTable?_distinct (fun a ha => ?_) hv'
      obtain ⟨t', u, hread⟩ := Scan.mem_list hassignments a ha
      obtain ⟨t', u, hread⟩ := exists_of_assignment hread
      exact ih hread
    · exact scalar_distinct h

/-! ### Documents -/

namespace Statement

/-- What a statement says has no key twice. -/
def Distinct : Statement → Prop
  | assign a => a.value.Distinct
  | _ => True

end Statement

/-- A header assigns nothing. -/
theorem exists_of_header {make : List String → String → Statement} {closing s rest : List Char}
    {st : Statement} (h : header make closing s = some (st, rest)) :
    ∃ path key, st = make path key := by
  simp only [header, Option.bind_eq_bind, Option.bind_eq_some_iff] at h
  obtain ⟨⟨keys, t⟩, -, key, -, u, -, heq⟩ := h
  obtain ⟨rfl, -⟩ := Prod.mk.inj (Option.some.inj heq)
  exact ⟨_, _, rfl⟩

theorem statement_distinct {s rest : List Char} {st : Statement}
    (h : statement s = some (st, rest)) : st.Distinct := by
  -- whatever the statement is, it was read before the end of its line
  have hread {read : Option (Statement × List Char)}
      (h : (read.bind fun p => (Scan.endOfLine p.2).bind fun u => some (p.1, u)) =
        some (st, rest)) : ∃ t, read = some (st, t) := by
    obtain ⟨⟨st', t⟩, hread, hrest⟩ := Option.bind_eq_some_iff.mp h
    obtain ⟨u, -, heq⟩ := Option.bind_eq_some_iff.mp hrest
    obtain ⟨rfl, -⟩ := Prod.mk.inj (Option.some.inj heq)
    exact ⟨t, hread⟩
  rw [statement.eq_def] at h
  split at h
  · obtain ⟨t, ht⟩ := hread h
    obtain ⟨path, key, rfl⟩ := exists_of_header ht
    trivial
  · obtain ⟨t, ht⟩ := hread h
    obtain ⟨path, key, rfl⟩ := exists_of_header ht
    trivial
  · obtain ⟨t, ht⟩ := hread h
    obtain ⟨⟨a, t'⟩, ha, heq⟩ := Option.map_eq_some_iff.mp ht
    obtain ⟨rfl, -⟩ := Prod.mk.inj heq
    obtain ⟨_, _, hvalue⟩ := exists_of_assignment ha
    exact value_distinct hvalue

theorem statements_distinct {s : List Char} {found : List Statement}
    (h : statements s = some found) : ∀ st ∈ found, st.Distinct := by
  fun_induction statements s generalizing found with
  | case2 =>
    obtain rfl := Option.some.inj h
    exact fun _ hst => absurd hst List.not_mem_nil
  | case4 s t _ _ st rest hst _ ih =>
    obtain ⟨others, hothers, rfl⟩ := Option.map_eq_some_iff.mp h
    intro st' hst'
    rcases List.mem_cons.mp hst' with rfl | hst'
    · exact statement_distinct hst
    · exact ih hothers st' hst'
  | _ => cases h

theorem Draft.enter_distinct {draft draft' : Draft} {st : Statement} (hst : st.Distinct)
    (h : draft.fields.Distinct) (henter : draft.enter st = some draft') :
    draft'.fields.Distinct := by
  cases st with
  | assign a =>
    obtain ⟨fields, hfields, rfl⟩ := Option.map_eq_some_iff.mp henter
    exact Node.Fields.Distinct.descend (fun hinner hassign => hinner.assign hst hassign) h hfields
  | table path key =>
    obtain ⟨fields, hfields, rfl⟩ := Option.map_eq_some_iff.mp henter
    exact h.open? hfields
  | element path key =>
    obtain ⟨fields, hfields, rfl⟩ := Option.map_eq_some_iff.mp henter
    exact h.append? hfields

/-- **In a document every key stands once.** No table of a document that was read, however deep it
lies and in whatever way it was written, has a key twice. -/
theorem Document.read?_distinct {text : String} {entries : Entries}
    (h : Document.read? text = some entries) : (Value.table entries).Distinct := by
  simp only [Document.read?, Option.bind_eq_bind, Option.bind_eq_some_iff] at h
  obtain ⟨lines, -, found, hfound, draft, hdraft, heq⟩ := h
  obtain rfl := Option.some.inj heq
  have hall := statements_distinct hfound
  exact Node.Fields.Distinct.finish (foldlM_invariant (P := fun draft => draft.fields.Distinct)
    (fun draft st draft' hst h henter => Draft.enter_distinct (hall st hst) h henter)
    Node.Fields.distinct_nil hdraft)

end SerialCard.Toml
