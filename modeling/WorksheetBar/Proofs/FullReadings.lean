import WorksheetBar.Proofs.PassedOver

/-!
# Documents that can be read in full

Where a document can be read in full, and no object in it names a member twice, a reader of its
own may forget about the document and look at its value alone.  It need not mind what members
cannot be decoded or passed over, nor which of two members of one name counts.

Readers of objects go over the members from left to right and give up at the first that does not
fit.  What such a walk comes to is told of what is known so far and of the members that are still
to come taken together: a member that is taken in goes over from the second to the first.

* `Members.get?_ofList` — putting members in order keeps what is found under each name;
* `Node.Reads` — a value that can be read in full, and what it is;
* `Walks.eq_ok_iff` — what a walk over the members of an object comes to.
-/

namespace WorksheetBar.Json

theorem Members.get?_eq_none {members : Members} {name : String}
    (h : name ∉ members.map Prod.fst) : members.get? name = none := by
  rw [get?, List.lookup_eq_none_iff]
  intro member hmem
  rw [bne_iff_ne]
  rintro rfl
  exact h (List.mem_map_of_mem hmem)

/-- Where no name is given twice, putting members in order keeps the value of each. -/
theorem Members.get?_ofList {members : List (String × Json)}
    (hnodup : (members.map Prod.fst).Nodup) (name : String) :
    (ofList members).get? name = Members.get? members name := by
  have hfold : ∀ (members : List (String × Json)) (sorted : Members),
      (members.map Prod.fst).Nodup →
      Members.get? (members.foldl (fun sorted member => sorted.insert member.1 member.2) sorted)
        name = (Members.get? members name).or (sorted.get? name) := by
    intro members
    induction members with
    | nil => exact fun _ _ => rfl
    | cons member rest ih =>
        obtain ⟨key, value⟩ := member
        intro sorted hnodup
        obtain ⟨hkey, hrest⟩ := List.nodup_cons.mp hnodup
        rw [List.foldl_cons, ih _ hrest, Members.get?_cons]
        dsimp only
        split
        · next hsame =>
            subst hsame
            rw [get?_eq_none hkey, Members.get?_insert_self]
            rfl
        · next hother => rw [Members.get?_insert_of_ne _ _ hother]
  have hall := hfold members [] hnodup
  rwa [Members.get?_nil, Option.or_none] at hall

/-! ## Documents in which no member is repeated -/

/-- The names of the members of an object, as far as they have values. -/
def Fields.names : Fields → List String
  | .closed _ | .cut _ _ | .lastKey _ | .noColon _ _ _ => []
  | .last key _ _ => key.decoded.toOption.toList
  | .cons key _ _ rest => key.decoded.toOption.toList ++ rest.names

mutual

/-- Whether no object names a member twice. -/
def Node.isDistinct : Node → Bool
  | .null _ | .bool _ _ | .number _ | .string _ | .broken _ => true
  | .array _ items => items.isDistinct
  | .object _ members => decide members.names.Nodup && members.isDistinct

/-- Whether no object among the items names a member twice. -/
def Items.isDistinct : Items → Bool
  | .closed _ | .cut _ _ => true
  | .last _ item => item.isDistinct
  | .cons _ item rest => item.isDistinct && rest.isDistinct

/-- Whether no object in the members names a member twice. -/
def Fields.isDistinct : Fields → Bool
  | .closed _ | .cut _ _ | .lastKey _ | .noColon _ _ _ => true
  | .last _ _ value => value.isDistinct
  | .cons _ _ value rest => value.isDistinct && rest.isDistinct

end

/-- A node of a document that can be read in full, and the value it has. -/
structure Node.Reads (room : Nat) (node : Node) (value : Json) : Prop where
  decode : node.decode room = .ok value
  agrees : node.Agrees
  distinct : node.isDistinct = true

/-- Items of a document that can be read in full, and the values they have. -/
structure Items.Reads (room : Nat) (items : Items) (values : List Json) : Prop where
  decode : items.decode room = .ok values
  agrees : items.Agrees
  distinct : items.isDistinct = true

/-- Members of a document that can be read in full, and the values they have. -/
structure Fields.Reads (room : Nat) (fields : Fields) (members : Members) : Prop where
  decode : fields.decode room = .ok members
  agrees : fields.Agrees
  distinct : fields.isDistinct = true

/-- The names that are counted are those of the values that are read. -/
theorem Fields.names_of_decode {room : Nat} :
    ∀ {fields : Fields} {members : Members}, fields.decode room = .ok members →
      fields.names = members.map Prod.fst
  | .closed _, _, hdecode => by
      cases hdecode
      rfl
  | .cut _ _, _, hdecode => nomatch hdecode
  | .lastKey key, _, hdecode => by
      obtain ⟨_, _, rfl⟩ := Attempt.map_eq_ok_iff.mp hdecode
      rfl
  | .noColon key _ fault, _, hdecode => by
      rw [Fields.decode] at hdecode
      split at hdecode <;> cases hdecode
  | .last key _ value, _, hdecode => by
      rw [Fields.decode] at hdecode
      split at hdecode
      · cases hdecode
      · next name hname =>
          obtain ⟨_, _, rfl⟩ := Attempt.map_eq_ok_iff.mp hdecode
          rw [Fields.names, hname]
          rfl
  | .cons key _ value rest, _, hdecode => by
      rw [Fields.decode] at hdecode
      split at hdecode
      · cases hdecode
      · next name hname =>
          split at hdecode
          · cases hdecode
          · obtain ⟨_, hrest, rfl⟩ := Attempt.map_eq_ok_iff.mp hdecode
            rw [Fields.names, hname, Fields.names_of_decode hrest]
            rfl

/-! ## The values of nodes -/

variable {room : Nat} {node : Node} {value : Json}

/-- A node that can be read can be passed over. -/
theorem Node.Reads.skip (h : node.Reads room value) : node.skip = none :=
  Node.skip_of_decode h.agrees h.decode

/-- The members of an object that can be read in full. -/
theorem Node.Reads.of_object {start : Nat} {fields : Fields}
    (h : (Node.object start fields).Reads room value) :
    1 < room ∧ ∃ members : Members, fields.Reads (room - 1) members ∧
      (members.map Prod.fst).Nodup ∧ value = .object (Members.ofList members) := by
  obtain ⟨hdecode, hagrees, hdistinct⟩ := h
  rw [Node.decode] at hdecode
  split at hdecode
  · cases hdecode
  · next hroom =>
      obtain ⟨members, hmembers, rfl⟩ := Attempt.map_eq_ok_iff.mp hdecode
      obtain ⟨hnodup, hvalues⟩ := Bool.and_eq_true_iff.mp hdistinct
      rw [decide_eq_true_eq, Fields.names_of_decode hmembers] at hnodup
      exact ⟨by omega, members, ⟨hmembers, hagrees, hvalues⟩, hnodup, rfl⟩

/-- The items of an array that can be read in full. -/
theorem Node.Reads.of_array {start : Nat} {items : Items}
    (h : (Node.array start items).Reads room value) :
    1 < room ∧ ∃ values, items.Reads (room - 1) values ∧ value = .array values := by
  obtain ⟨hdecode, hagrees, hdistinct⟩ := h
  rw [Node.decode] at hdecode
  split at hdecode
  · cases hdecode
  · next hroom =>
      obtain ⟨values, hvalues, rfl⟩ := Attempt.map_eq_ok_iff.mp hdecode
      exact ⟨by omega, values, ⟨hvalues, hagrees, hdistinct⟩, rfl⟩

/-- Items that end here have no values. -/
theorem Items.Reads.atEnd_iff {items : Items} {values : List Json} (h : items.Reads room values) :
    items.atEnd = none ↔ values = [] := by
  obtain ⟨hdecode, _, _⟩ := h
  cases items with
  | closed =>
      cases hdecode
      exact iff_of_true rfl rfl
  | cut => cases hdecode
  | last start item =>
      obtain ⟨value, _, rfl⟩ := Attempt.map_eq_ok_iff.mp hdecode
      simp [Items.atEnd]
  | cons start item rest =>
      rw [Items.decode] at hdecode
      split at hdecode
      · cases hdecode
      · obtain ⟨values, _, rfl⟩ := Attempt.map_eq_ok_iff.mp hdecode
        simp [Items.atEnd]

/-- The item in front of others that can be read in full. -/
theorem Items.Reads.of_cons {start : Nat} {item : Node} {rest : Items} {values : List Json}
    (h : (Items.cons start item rest).Reads room values) :
    ∃ value more, item.Reads room value ∧ rest.Reads room more ∧ values = value :: more := by
  obtain ⟨hdecode, hagrees, hdistinct⟩ := h
  obtain ⟨hitem, hrest⟩ := Bool.and_eq_true_iff.mp hdistinct
  rw [Items.decode] at hdecode
  split at hdecode
  · cases hdecode
  · next value hvalue =>
      obtain ⟨more, hmore, rfl⟩ := Attempt.map_eq_ok_iff.mp hdecode
      exact ⟨value, more, ⟨hvalue, hagrees.1, hitem⟩, ⟨hmore, hagrees.2, hrest⟩, rfl⟩

/-- The last item, if it can be read in full. -/
theorem Items.Reads.of_last {start : Nat} {item : Node} {values : List Json}
    (h : (Items.last start item).Reads room values) :
    ∃ value, item.Reads room value ∧ values = [value] := by
  obtain ⟨value, hvalue, rfl⟩ := Attempt.map_eq_ok_iff.mp h.decode
  exact ⟨value, ⟨hvalue, h.agrees, h.distinct⟩, rfl⟩

/-- A document is read if its root is and nothing follows it. -/
theorem Document.read_eq_ok_iff {α : Type} {document : Document} {reader : Node → Except Fault α}
    {value : α} :
    document.read reader = .ok value ↔
      reader document.root = .ok value ∧ document.trailing = none := by
  unfold Document.read
  cases reader document.root <;> cases document.trailing <;> simp

/-! ## Walking over members -/

section

variable {σ β : Type}

/-- Goes over the members of an object from left to right, taking them in one by one. -/
def Fields.walk (take : σ → String → Nat → Node → Except Fault σ)
    (finish : σ → Nat → Except Fault β) (known : σ) : Fields → Except Fault β
  | .closed stop => finish known stop
  | .cut offset how => .error ⟨how.inObject, offset⟩
  | .lastKey key => do
    let _ ← key.decoded
    finish known key.stop
  | .noColon key resume fault => do
    let name ← key.decoded
    let _ ← take known name resume (.broken fault)
    .error fault
  | .last key resume value => do
    let name ← key.decoded
    let known ← take known name resume value
    finish known key.stop
  | .cons key resume value rest => do
    let name ← key.decoded
    let known ← take known name resume value
    walk take finish known rest

/-- What a walk comes to, told of what is known so far and of the members that are still to come:
a member that is taken in goes over from these to what is known.  No member is taken in under a
name that was taken before. -/
structure Walks (room : Nat) (take : σ → String → Nat → Node → Except Fault σ)
    (finish : σ → Nat → Except Fault β) (taken : σ → String → Prop)
    (comes : σ → Members → β → Prop) : Prop where
  finish_iff : ∀ {known stop result}, finish known stop = .ok result ↔ comes known [] result
  take_iff : ∀ {known name resume node value rest result}, Node.Reads room node value →
    ¬ taken known name →
    ((∃ next, take known name resume node = .ok next ∧ comes next rest result) ↔
      comes known ((name, value) :: rest) result)
  taken_of_take : ∀ {known name resume node next other},
    take known name resume node = .ok next → taken next other → taken known other ∨ other = name

/-- **What a walk over the members of an object comes to.** -/
theorem Walks.eq_ok_iff {take : σ → String → Nat → Node → Except Fault σ}
    {finish : σ → Nat → Except Fault β} {taken : σ → String → Prop}
    {comes : σ → Members → β → Prop} (h : Walks room take finish taken comes) {result : β} :
    ∀ {fields : Fields} {known : σ} {members : Members}, fields.Reads room members →
      (members.map Prod.fst).Nodup → (∀ name ∈ members.map Prod.fst, ¬ taken known name) →
      (fields.walk take finish known = .ok result ↔ comes known members result)
  | .closed _, known, members, hreads, _, _ => by
      cases hreads.decode
      exact h.finish_iff
  | .cut _ _, _, _, hreads, _, _ => nomatch hreads.decode
  | .lastKey key, known, members, hreads, _, _ => by
      obtain ⟨name, hname, rfl⟩ := Attempt.map_eq_ok_iff.mp hreads.decode
      rw [Fields.walk, hname]
      exact h.finish_iff
  | .noColon key _ fault, _, _, hreads, _, _ => by
      have hdecode := hreads.decode
      rw [Fields.decode] at hdecode
      split at hdecode <;> cases hdecode
  | .last key resume node, known, members, hreads, hnodup, hfresh => by
      obtain ⟨hdecode, hagrees, hdistinct⟩ := hreads
      rw [Fields.decode] at hdecode
      split at hdecode
      · cases hdecode
      · next name hname =>
          obtain ⟨value, hvalue, rfl⟩ := Attempt.map_eq_ok_iff.mp hdecode
          rw [← h.take_iff ⟨hvalue, hagrees.2, hdistinct⟩ (hfresh name (by simp)), Fields.walk,
            hname]
          show (take known name resume node >>= fun next => finish next key.stop) = .ok result ↔ _
          rw [Attempt.bind_eq_ok_iff]
          exact exists_congr fun next => and_congr_right fun _ => h.finish_iff
  | .cons key resume node rest, known, members, hreads, hnodup, hfresh => by
      obtain ⟨hdecode, hagrees, hdistinct⟩ := hreads
      obtain ⟨hnode, hrest⟩ := Bool.and_eq_true_iff.mp hdistinct
      rw [Fields.decode] at hdecode
      split at hdecode
      · cases hdecode
      · next name hname =>
          split at hdecode
          · cases hdecode
          · next value hvalue =>
              obtain ⟨more, hmore, rfl⟩ := Attempt.map_eq_ok_iff.mp hdecode
              obtain ⟨hnew, hnodup⟩ := List.nodup_cons.mp hnodup
              rw [← h.take_iff ⟨hvalue, hagrees.2.1, hnode⟩ (hfresh name (by simp)), Fields.walk,
                hname]
              show (take known name resume node >>= fun next => rest.walk take finish next) =
                .ok result ↔ _
              refine Attempt.bind_eq_ok_iff.trans (exists_congr fun next => and_congr_right ?_)
              intro htake
              refine h.eq_ok_iff ⟨hmore, hagrees.2.2, hrest⟩ hnodup ?_
              intro other hother htaken
              rcases h.taken_of_take htake htaken with hbefore | rfl
              · exact hfresh other (List.mem_cons_of_mem _ hother) hbefore
              · exact hnew hother

end

end WorksheetBar.Json
