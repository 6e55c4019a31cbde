import WorksheetBar.Profile.Fetch
import WorksheetBar.Proofs.FullReadings

/-!
# Which answers hold a profile

A profile is read straight from the document, not from a value made of it.  For a document that can
be read in full, and in which no object names a member twice, that does not show: whether there is
a profile depends on its value alone, and there it is a matter of a few members.

Both a resource and the envelope around it are read by a walk over members, or as an array of
fixed length.

* `resourceOf_eq_ok_iff`, `envelopeOf_eq_ok_iff` — which values describe a resource, and which
  hold one;
* `ofBody_eq_ok_iff` — which documents hold a profile;
* `ofBody_malformed` — whatever else the bytes are, they are malformed.
-/

namespace WorksheetBar.Json

variable {room : Nat} {node : Node} {value : Json}

/-- A node that is read as a text has one for a value. -/
theorem Node.Reads.asString_iff (h : node.Reads room value) {text : String} :
    node.asString = .ok text ↔ value = .string text := by
  obtain ⟨hdecode, _, _⟩ := h
  cases node with
  | string reading =>
      obtain ⟨read, hread, rfl⟩ := Attempt.map_eq_ok_iff.mp hdecode
      simp [Node.asString, hread]
  | null | bool =>
      cases hdecode
      simp [Node.asString]
  | number reading =>
      obtain ⟨read, hread, rfl⟩ := Attempt.map_eq_ok_iff.mp hdecode
      simp [Node.asString]
  | array start items | object start members =>
      rw [Node.decode] at hdecode
      split at hdecode
      · cases hdecode
      · obtain ⟨read, hread, rfl⟩ := Attempt.map_eq_ok_iff.mp hdecode
        simp [Node.asString, ofMembers]
  | broken => cases hdecode

/-- A node that is read as members is an object. -/
theorem Node.Reads.asMembers_iff (h : node.Reads room value) {members : Members} :
    node.asMembers room = .ok members ↔ value = .object members := by
  cases node with
  | object start fields =>
      obtain ⟨hroom, read, hread, _, rfl⟩ := h.of_object
      rw [Node.asMembers, if_neg (by omega), hread.decode]
      simp [Except.map]
  | array start items =>
      obtain ⟨_, values, _, rfl⟩ := h.of_array
      simp [Node.asMembers]
  | null | bool =>
      cases h.decode
      simp [Node.asMembers]
  | number reading | string reading =>
      obtain ⟨read, hread, rfl⟩ := Attempt.map_eq_ok_iff.mp h.decode
      simp [Node.asMembers]
  | broken => cases h.decode

end WorksheetBar.Json

namespace WorksheetBar.Profile.Envelope

open WorksheetBar.Json (Fault Node Items Fields Members Walks)

variable {room : Nat} {node : Node} {value : Json} {resource : Resource}

/-! ## Resources -/

/-- A value that describes a resource.  The attributes may be missing. -/
inductive Describes : Json → Resource → Prop
  | object {members : Members} {resource : Resource}
      (hid : members.get? "id" = some (.string resource.id))
      (hattributes : (members.get? "attributes").getD (.object []) = .object resource.attributes) :
      Describes (.object members) resource
  | single (id : String) : Describes (.array [.string id]) ⟨id, []⟩
  | pair (id : String) (attributes : Members) :
      Describes (.array [.string id, .object attributes]) ⟨id, attributes⟩

/-- Whether a field was taken in under a name. -/
def Partial.Taken (known : Partial) (name : String) : Prop :=
  name = "id" ∧ known.id.isSome = true ∨ name = "attributes" ∧ known.attributes.isSome = true

/-- The resource that comes of what is known and of the members that are still to come. -/
structure Partial.Comes (known : Partial) (members : Members) (resource : Resource) : Prop where
  id : (known.id.map Json.string).or (members.get? "id") = some (.string resource.id)
  attributes : ((known.attributes.map Json.object).or (members.get? "attributes")).getD
    (.object []) = .object resource.attributes

/-- At the end of an object all that is known makes the resource. -/
theorem Partial.finish_iff {known : Partial} {stop : Nat} :
    known.finish stop = .ok resource ↔ known.Comes [] resource := by
  obtain ⟨id, attributes⟩ := known
  obtain ⟨resourceId, resourceAttributes⟩ := resource
  cases id with
  | none => exact iff_of_false (by simp [finish]) fun h => nomatch h.id
  | some id =>
      constructor
      · intro h
        cases h
        exact ⟨rfl, by cases attributes <;> rfl⟩
      · rintro ⟨hid, hattributes⟩
        cases hid
        cases attributes <;> cases hattributes <;> rfl

/-- Each field comes from what is known, or else from its member. -/
theorem Partial.comes_iff {known : Partial} {members : Members} :
    known.Comes members resource ↔
      (known.id.map Json.string).or (members.get? "id") = some (.string resource.id) ∧
        ((known.attributes.map Json.object).or (members.get? "attributes")).getD (.object []) =
          .object resource.attributes :=
  ⟨fun h => ⟨h.id, h.attributes⟩, fun h => ⟨h.1, h.2⟩⟩

section

variable {known : Partial} {resume : Nat} {rest : Members} (h : node.Reads room value)

include h

/-- The identity is taken in if it is a text. -/
theorem Partial.take_id_iff (hnone : known.id = none) :
    (∃ next, known.take room "id" resume node = .ok next ∧ next.Comes rest resource) ↔
      known.Comes (("id", value) :: rest) resource := by
  have htake : known.take room "id" resume node =
      node.asString.map fun id => { known with id := some id } := by
    simp [take, hnone]
  have hlater : Members.get? (("id", value) :: rest) "attributes" = rest.get? "attributes" := by
    simp [Members.get?_cons]
  simp only [htake, Attempt.map_eq_ok_iff, h.asString_iff, comes_iff, hlater, hnone,
    Members.get?_cons]
  constructor
  · rintro ⟨_, ⟨id, rfl, rfl⟩, hid, hattributes⟩
    exact ⟨hid, hattributes⟩
  · rintro ⟨hid, hattributes⟩
    exact ⟨_, ⟨resource.id, Option.some.inj hid, rfl⟩, rfl, hattributes⟩

/-- The attributes are taken in if they are an object. -/
theorem Partial.take_attributes_iff (hnone : known.attributes = none) :
    (∃ next, known.take room "attributes" resume node = .ok next ∧ next.Comes rest resource) ↔
      known.Comes (("attributes", value) :: rest) resource := by
  have htake : known.take room "attributes" resume node =
      (node.asMembers room).map fun members => { known with attributes := some members } := by
    simp [take, hnone]
  have hlater : Members.get? (("attributes", value) :: rest) "id" = rest.get? "id" := by
    simp [Members.get?_cons]
  simp only [htake, Attempt.map_eq_ok_iff, h.asMembers_iff, comes_iff, hlater, hnone,
    Members.get?_cons]
  constructor
  · rintro ⟨_, ⟨members, rfl, rfl⟩, hid, hattributes⟩
    exact ⟨hid, hattributes⟩
  · rintro ⟨hid, hattributes⟩
    exact ⟨_, ⟨resource.attributes, hattributes, rfl⟩, hid, rfl⟩

/-- Any other member is passed over. -/
theorem Partial.take_other_iff {name : String} (hid : name ≠ "id")
    (hattributes : name ≠ "attributes") :
    (∃ next, known.take room name resume node = .ok next ∧ next.Comes rest resource) ↔
      known.Comes ((name, value) :: rest) resource := by
  have htake : known.take room name resume node = .ok known := by
    simp [take, hid, hattributes, h.skip]
  simp [htake, comes_iff, Members.get?_cons, Ne.symm hid, Ne.symm hattributes]

/-- **A member that is taken in** goes over from what is to come to what is known. -/
theorem Partial.take_iff {name : String} (hnew : ¬ known.Taken name) :
    (∃ next, known.take room name resume node = .ok next ∧ next.Comes rest resource) ↔
      known.Comes ((name, value) :: rest) resource := by
  by_cases hid : name = "id"
  · subst hid
    exact take_id_iff h (Option.not_isSome_iff_eq_none.mp fun hsome => hnew (Or.inl ⟨rfl, hsome⟩))
  · by_cases hattributes : name = "attributes"
    · subst hattributes
      exact take_attributes_iff h
        (Option.not_isSome_iff_eq_none.mp fun hsome => hnew (Or.inr ⟨rfl, hsome⟩))
    · exact take_other_iff h hid hattributes

end

/-- A member is taken in under its own name only. -/
theorem Partial.taken_of_take {known next : Partial} {name other : String} {resume : Nat}
    (h : known.take room name resume node = .ok next) (htaken : next.Taken other) :
    known.Taken other ∨ other = name := by
  unfold take at h
  split at h
  · next hid =>
      split at h
      · cases h
      · obtain ⟨id, _, rfl⟩ := Attempt.map_eq_ok_iff.mp h
        rcases htaken with ⟨hother, _⟩ | hattributes
        · exact Or.inr (hother.trans hid.symm)
        · exact Or.inl (Or.inr hattributes)
  · split at h
    · next hattributes =>
        split at h
        · cases h
        · obtain ⟨members, _, rfl⟩ := Attempt.map_eq_ok_iff.mp h
          rcases htaken with hid | ⟨hother, _⟩
          · exact Or.inl (Or.inl hid)
          · exact Or.inr (hother.trans hattributes.symm)
    · split at h
      · cases h
      · cases h
        exact Or.inl htaken

/-- The members of an object are a walk that takes one resource together. -/
theorem resource_walks (room : Nat) :
    Walks room (fun known : Partial => known.take room) Partial.finish Partial.Taken
      Partial.Comes :=
  ⟨Partial.finish_iff, fun h hnew => Partial.take_iff h hnew, Partial.taken_of_take⟩

/-- The reader of a resource goes along that walk. -/
theorem resourceFields_eq_walk (room : Nat) :
    ∀ (fields : Fields) (known : Partial), resourceFields room known fields =
      fields.walk (fun known : Partial => known.take room) Partial.finish known
  | .closed _, _ | .cut _ _, _ | .lastKey _, _ | .noColon _ _ _, _ | .last _ _ _, _ => rfl
  | .cons key resume node rest, known => by
      rw [resourceFields, Fields.walk]
      simp only [resourceFields_eq_walk room rest]

/-- Before any member is taken in, what comes of the members is what their object describes. -/
theorem Partial.comes_empty_iff {members : Members} (hnodup : (members.map Prod.fst).Nodup) :
    ({} : Partial).Comes members resource ↔
      Describes (.object (Members.ofList members)) resource := by
  have hordered : Describes (.object (Members.ofList members)) resource ↔
      (Members.ofList members).get? "id" = some (.string resource.id) ∧
        ((Members.ofList members).get? "attributes").getD (.object []) =
          .object resource.attributes :=
    ⟨fun | .object hid hattributes => ⟨hid, hattributes⟩, fun h => .object h.1 h.2⟩
  rw [hordered, Members.get?_ofList hnodup, Members.get?_ofList hnodup]
  exact Partial.comes_iff

/-- As an array, a resource is its identity, or that and its attributes. -/
theorem describes_array_iff {values : List Json} :
    Describes (.array values) resource ↔
      values = [.string resource.id] ∧ resource.attributes = [] ∨
        values = [.string resource.id, .object resource.attributes] := by
  constructor
  · intro h
    cases h with
    | single id => exact Or.inl ⟨rfl, rfl⟩
    | pair id attributes => exact Or.inr rfl
  · obtain ⟨id, attributes⟩ := resource
    rintro (⟨rfl, rfl⟩ | rfl)
    · exact .single id
    · exact .pair id attributes

/-- Behind a value that is complete an array has to be closed. -/
theorem closing_iff {α : Type} {given result : α} {rest : Items} {values : List Json}
    (h : rest.Reads room values) :
    closing given rest = .ok result ↔ values = [] ∧ given = result := by
  unfold closing
  cases hend : rest.atEnd with
  | none => simp [h.atEnd_iff.mp hend]
  | some fault =>
      have hmore : values ≠ [] := fun hnone => by simp [h.atEnd_iff.mpr hnone] at hend
      simp [hmore]

/-- What is left of an array behind the identity: nothing, or the attributes. -/
theorem resourceAttributes_iff {id : String} {items : Items} {values : List Json}
    (h : items.Reads room values) :
    resourceAttributes room id items = .ok resource ↔
      id = resource.id ∧
        (values = [] ∧ resource.attributes = [] ∨ values = [.object resource.attributes]) := by
  obtain ⟨resourceId, attributes⟩ := resource
  cases items with
  | closed =>
      cases h.decode
      simp [resourceAttributes, eq_comm]
  | cut => cases h.decode
  | last start item =>
      obtain ⟨value, hitem, rfl⟩ := h.of_last
      rw [resourceAttributes, Attempt.map_eq_ok_iff]
      constructor
      · rintro ⟨given, hgiven, hsame⟩
        cases hsame
        exact ⟨rfl, Or.inr (by rw [hitem.asMembers_iff.mp hgiven])⟩
      · rintro ⟨rfl, ⟨hnone, _⟩ | hvalue⟩
        · cases hnone
        · exact ⟨attributes, hitem.asMembers_iff.mpr (List.singleton_inj.mp hvalue), rfl⟩
  | cons start item rest =>
      obtain ⟨value, more, hitem, hrest, rfl⟩ := h.of_cons
      rw [resourceAttributes, Attempt.bind_eq_ok_iff]
      constructor
      · rintro ⟨given, hgiven, hclosing⟩
        obtain ⟨rfl, hsame⟩ := (closing_iff hrest).mp hclosing
        cases hsame
        exact ⟨rfl, Or.inr (by rw [hitem.asMembers_iff.mp hgiven])⟩
      · rintro ⟨rfl, ⟨hnone, _⟩ | hvalue⟩
        · cases hnone
        · obtain ⟨hvalue, hmore⟩ := List.cons_eq_cons.mp hvalue
          exact ⟨attributes, hitem.asMembers_iff.mpr hvalue,
            (closing_iff hrest).mpr ⟨hmore, rfl⟩⟩

/-- The reader of an array takes exactly such arrays. -/
theorem resourceItems_iff {items : Items} {values : List Json} (h : items.Reads room values) :
    resourceItems room items = .ok resource ↔ Describes (.array values) resource := by
  rw [describes_array_iff]
  cases items with
  | closed =>
      cases h.decode
      simp [resourceItems]
  | cut => cases h.decode
  | last start item =>
      obtain ⟨value, hitem, rfl⟩ := h.of_last
      rw [resourceItems, Attempt.map_eq_ok_iff]
      constructor
      · rintro ⟨id, hid, rfl⟩
        exact Or.inl ⟨by rw [hitem.asString_iff.mp hid], rfl⟩
      · obtain ⟨id, attributes⟩ := resource
        rintro (⟨hvalue, rfl⟩ | hvalue)
        · exact ⟨id, hitem.asString_iff.mpr (List.singleton_inj.mp hvalue), rfl⟩
        · cases hvalue
  | cons start item rest =>
      obtain ⟨value, more, hitem, hrest, rfl⟩ := h.of_cons
      rw [resourceItems, Attempt.bind_eq_ok_iff]
      simp only [resourceAttributes_iff hrest, hitem.asString_iff, List.cons.injEq]
      constructor
      · rintro ⟨_, rfl, rfl, ⟨hmore, hattributes⟩ | hmore⟩
        · exact Or.inl ⟨⟨rfl, hmore⟩, hattributes⟩
        · exact Or.inr ⟨rfl, hmore⟩
      · rintro (⟨⟨hvalue, hmore⟩, hattributes⟩ | ⟨hvalue, hmore⟩)
        · exact ⟨_, hvalue, rfl, Or.inl ⟨hmore, hattributes⟩⟩
        · exact ⟨_, hvalue, rfl, Or.inr hmore⟩

/-- **A value that can be read is read as a resource exactly if it describes one.** -/
theorem resourceOf_eq_ok_iff (h : node.Reads room value) :
    resourceOf room node = .ok resource ↔ Describes value resource := by
  cases node with
  | object start fields =>
      obtain ⟨hroom, members, hmembers, hnodup, rfl⟩ := h.of_object
      have hnew : ∀ name ∈ members.map Prod.fst, ¬ ({} : Partial).Taken name := by
        rintro name - (⟨_, hid⟩ | ⟨_, hattributes⟩)
        · cases hid
        · cases hattributes
      rw [resourceOf, if_neg (by omega), resourceFields_eq_walk,
        (resource_walks _).eq_ok_iff hmembers hnodup hnew, Partial.comes_empty_iff hnodup]
  | array start items =>
      obtain ⟨hroom, values, hvalues, rfl⟩ := h.of_array
      rw [resourceOf, if_neg (by omega)]
      exact resourceItems_iff hvalues
  | null | bool =>
      cases h.decode
      exact iff_of_false (fun hread => nomatch hread) fun hdescribes => nomatch hdescribes
  | number reading | string reading =>
      obtain ⟨read, _, rfl⟩ := Attempt.map_eq_ok_iff.mp h.decode
      exact iff_of_false (fun hread => nomatch hread) fun hdescribes => nomatch hdescribes
  | broken => cases h.decode

/-! ## Envelopes -/

/-- A value that holds a resource. -/
inductive Wraps : Json → Resource → Prop
  | object {members : Members} {data : Json} {resource : Resource}
      (hdata : members.get? "data" = some data) (h : Describes data resource) :
      Wraps (.object members) resource
  | single {data : Json} {resource : Resource} (h : Describes data resource) :
      Wraps (.array [data]) resource

/-- Whether the resource was taken in under a name. -/
def Taken (data : Option Resource) (name : String) : Prop :=
  name = "data" ∧ data.isSome = true

/-- The resource that is known, or that is still to come. -/
def Comes (data : Option Resource) (members : Members) (resource : Resource) : Prop :=
  data = some resource ∨
    data = none ∧ ∃ value, members.get? "data" = some value ∧ Describes value resource

/-- At the end of an envelope the resource has to be known. -/
theorem finish_iff {data : Option Resource} {stop : Nat} :
    finish data stop = .ok resource ↔ Comes data [] resource := by
  cases data <;> simp [finish, Comes]

/-- The resource is taken in under its name, and any other member is passed over. -/
theorem take_iff {data : Option Resource} {name : String} {resume : Nat} {rest : Members}
    (h : node.Reads room value) (hnew : ¬ Taken data name) :
    (∃ next, take data room name resume node = .ok next ∧ Comes next rest resource) ↔
      Comes data ((name, value) :: rest) resource := by
  by_cases hname : name = "data"
  · subst hname
    obtain rfl : data = none :=
      Option.not_isSome_iff_eq_none.mp fun hsome => hnew ⟨rfl, hsome⟩
    have htake : take none room "data" resume node = (resourceOf room node).map some := rfl
    simp only [htake, Attempt.map_eq_ok_iff, resourceOf_eq_ok_iff h]
    constructor
    · rintro ⟨_, ⟨given, hgiven, rfl⟩, hsame | ⟨hnone, _⟩⟩
      · cases hsame
        exact Or.inr ⟨rfl, value, by simp [Members.get?_cons], hgiven⟩
      · cases hnone
    · rintro (hsome | ⟨_, found, hfound, hgiven⟩)
      · cases hsome
      · obtain rfl : value = found := by simpa [Members.get?_cons] using hfound
        exact ⟨_, ⟨resource, hgiven, rfl⟩, Or.inl rfl⟩
  · have htake : take data room name resume node = .ok data := by
      simp [take, hname, h.skip]
    simp [htake, Comes, Members.get?_cons, Ne.symm hname]

/-- Nothing else counts as taken in. -/
theorem taken_of_take {data next : Option Resource} {name other : String} {resume : Nat}
    (h : take data room name resume node = .ok next) (htaken : Taken next other) :
    Taken data other ∨ other = name := by
  unfold take at h
  split at h
  · next hname => exact Or.inr (htaken.1.trans hname.symm)
  · split at h
    · cases h
    · cases h
      exact Or.inl htaken

/-- The members of an envelope are a walk that takes one resource in. -/
theorem envelope_walks (room : Nat) :
    Walks room (fun data => take data room) finish Taken Comes :=
  ⟨finish_iff, fun h hnew => take_iff h hnew, taken_of_take⟩

/-- The reader of an envelope goes along that walk. -/
theorem envelopeFields_eq_walk (room : Nat) :
    ∀ (fields : Fields) (data : Option Resource), envelopeFields room data fields =
      fields.walk (fun data => take data room) finish data
  | .closed _, _ | .cut _ _, _ | .lastKey _, _ | .noColon _ _ _, _ | .last _ _ _, _ => rfl
  | .cons key resume node rest, known => by
      rw [envelopeFields, Fields.walk]
      simp only [envelopeFields_eq_walk room rest]

/-- As an array, an envelope has the resource for its only item. -/
theorem envelopeItems_iff {items : Items} {values : List Json} (h : items.Reads room values) :
    envelopeItems room items = .ok resource ↔ Wraps (.array values) resource := by
  have hwraps : Wraps (.array values) resource ↔
      ∃ data, values = [data] ∧ Describes data resource :=
    ⟨fun | .single h => ⟨_, rfl, h⟩, fun ⟨_, hvalues, h⟩ => hvalues ▸ .single h⟩
  rw [hwraps]
  cases items with
  | closed =>
      cases h.decode
      simp [envelopeItems]
  | cut => cases h.decode
  | last start item =>
      obtain ⟨value, hitem, rfl⟩ := h.of_last
      simp [envelopeItems, resourceOf_eq_ok_iff hitem]
  | cons start item rest =>
      obtain ⟨value, more, hitem, hrest, rfl⟩ := h.of_cons
      rw [envelopeItems, Attempt.bind_eq_ok_iff]
      simp only [resourceOf_eq_ok_iff hitem, closing_iff hrest]
      constructor
      · rintro ⟨_, hgiven, rfl, rfl⟩
        exact ⟨value, rfl, hgiven⟩
      · rintro ⟨_, hvalues, hgiven⟩
        cases hvalues
        exact ⟨resource, hgiven, rfl, rfl⟩

/-- **A value that can be read is read as an envelope exactly if it holds a resource.** -/
theorem envelopeOf_eq_ok_iff (h : node.Reads room value) :
    envelopeOf room node = .ok resource ↔ Wraps value resource := by
  cases node with
  | object start fields =>
      obtain ⟨hroom, members, hmembers, hnodup, rfl⟩ := h.of_object
      have hnew : ∀ name ∈ members.map Prod.fst, ¬ Taken none name :=
        fun name _ htaken => nomatch htaken.2
      have hwraps : Wraps (.object (Members.ofList members)) resource ↔
          Comes none members resource := by
        rw [Comes, ← Members.get?_ofList hnodup]
        constructor
        · rintro ⟨hdata, hdescribes⟩
          exact Or.inr ⟨rfl, _, hdata, hdescribes⟩
        · rintro (hsome | ⟨_, data, hdata, hdescribes⟩)
          · cases hsome
          · exact .object hdata hdescribes
      rw [envelopeOf, if_neg (by omega), envelopeFields_eq_walk,
        (envelope_walks _).eq_ok_iff hmembers hnodup hnew, hwraps]
  | array start items =>
      obtain ⟨hroom, values, hvalues, rfl⟩ := h.of_array
      rw [envelopeOf, if_neg (by omega)]
      exact envelopeItems_iff hvalues
  | null | bool =>
      cases h.decode
      exact iff_of_false (fun hread => nomatch hread) fun hwraps => nomatch hwraps
  | number reading | string reading =>
      obtain ⟨read, _, rfl⟩ := Attempt.map_eq_ok_iff.mp h.decode
      exact iff_of_false (fun hread => nomatch hread) fun hwraps => nomatch hwraps
  | broken => cases h.decode

end WorksheetBar.Profile.Envelope

namespace WorksheetBar.Profile

open WorksheetBar.Json (Members Document Node)
open WorksheetBar.Profile.Envelope (Resource Describes Wraps envelopeOf envelopeOf_eq_ok_iff)

/-! ## Profiles -/

/-- A resource that says both who the user is and what more there is to say: an object with a text
for an `id` and an object for `attributes`, whatever else is in it, or an array of the two. -/
inductive IsResource : Json → String → Members → Prop
  | object {members : Members} {id : String} {attributes : Members}
      (hid : members.get? "id" = some (.string id))
      (hattributes : members.get? "attributes" = some (.object attributes)) :
      IsResource (.object members) id attributes
  | array (id : String) (attributes : Members) :
      IsResource (.array [.string id, .object attributes]) id attributes

/-- An envelope around such a resource: an object with the resource as its `data`, whatever else is
in it, or an array of just the resource. -/
inductive IsEnvelope : Json → String → Members → Prop
  | object {members : Members} {data : Json} {id : String} {attributes : Members}
      (hdata : members.get? "data" = some data) (h : IsResource data id attributes) :
      IsEnvelope (.object members) id attributes
  | array {data : Json} {id : String} {attributes : Members} (h : IsResource data id attributes) :
      IsEnvelope (.array [data]) id attributes

/-- Where an attribute is found there are attributes. -/
theorem describes_iff_isResource {value : Json} {resource : Resource} {name : String}
    (hfound : resource.attributes.get? name ≠ none) :
    Describes value resource ↔ IsResource value resource.id resource.attributes := by
  constructor
  · intro h
    cases h with
    | @object members _ hid hattributes =>
        cases hgiven : members.get? "attributes" with
        | none =>
            rw [hgiven] at hattributes
            have hnone : [] = resource.attributes := Json.object.inj hattributes
            exact absurd (hnone ▸ rfl) hfound
        | some given =>
            rw [hgiven] at hattributes
            exact .object hid (hgiven.trans (congrArg some hattributes))
    | single => exact absurd rfl hfound
    | pair id attributes => exact .array id attributes
  · obtain ⟨id, attributes⟩ := resource
    rintro (⟨hid, hattributes⟩ | _)
    · exact .object hid (by rw [hattributes]; rfl)
    · exact .pair _ _

/-- A value that wraps a resource with a name is an envelope around that. -/
theorem wraps_iff_isEnvelope {value : Json} {resource : Resource} {name : String}
    (hfound : resource.attributes.get? name ≠ none) :
    Wraps value resource ↔ IsEnvelope value resource.id resource.attributes := by
  constructor
  · rintro (⟨hdata, h⟩ | ⟨h⟩)
    · exact .object hdata ((describes_iff_isResource hfound).mp h)
    · exact .array ((describes_iff_isResource hfound).mp h)
  · intro h
    cases h with
    | object hdata h => exact .object hdata ((describes_iff_isResource hfound).mpr h)
    | array h => exact .single ((describes_iff_isResource hfound).mpr h)

/-- A resource is a profile exactly if its attributes have a name that is a text. -/
theorem ofResource_eq_ok_iff {resource : Resource} {profile : Profile} :
    ofResource resource = .ok profile ↔
      ∃ userName, resource.attributes.get? userNameKey = some (.string userName) ∧
        profile = .of resource.id userName resource.attributes := by
  unfold ofResource
  cases hfound : resource.attributes.get? userNameKey with
  | none => simp
  | some value => cases value <;> simp [Json.string?, eq_comm]

/-- **Which documents hold a profile**, of those that can be read in full and repeat no member. -/
theorem ofBody_eq_ok_iff {body : List UInt8} {value : Json}
    (hread : (Document.ofBytes body).toJson = .ok value)
    (hdistinct : (Document.ofBytes body).root.isDistinct = true) {profile : Profile} :
    ofBody body = .ok profile ↔
      ∃ id userName attributes, IsEnvelope value id attributes ∧
        attributes.get? userNameKey = some (.string userName) ∧
        profile = .of id userName attributes := by
  obtain ⟨hdecode, htrailing⟩ := Document.read_eq_ok_iff.mp hread
  have hreads : (Document.ofBytes body).root.Reads Json.depthLimit value :=
    ⟨hdecode, Document.root_agrees _, hdistinct⟩
  have henvelope : ∀ resource,
      (Document.ofPieces (Text.Utf8.pieces body)).read (envelopeOf Json.depthLimit) =
        .ok resource ↔ Wraps value resource := by
    intro resource
    exact Document.read_eq_ok_iff.trans ((and_iff_left htrailing).trans
      (envelopeOf_eq_ok_iff hreads))
  have hbody : ofBody body = .ok profile ↔
      ∃ resource, Wraps value resource ∧ ofResource resource = .ok profile := by
    simp only [← henvelope]
    unfold ofBody
    dsimp only
    cases (Document.ofPieces (Text.Utf8.pieces body)).read (envelopeOf Json.depthLimit) <;> simp
  rw [hbody]
  constructor
  · rintro ⟨resource, hwraps, hresource⟩
    obtain ⟨userName, hfound, rfl⟩ := ofResource_eq_ok_iff.mp hresource
    have hsome : resource.attributes.get? userNameKey ≠ none := by simp [hfound]
    exact ⟨_, userName, _, (wraps_iff_isEnvelope hsome).mp hwraps, hfound, rfl⟩
  · rintro ⟨id, userName, attributes, hisEnvelope, hfound, rfl⟩
    have hsome : attributes.get? userNameKey ≠ none := by simp [hfound]
    have hwraps : Wraps value ⟨id, attributes⟩ := (wraps_iff_isEnvelope hsome).mpr hisEnvelope
    exact ⟨_, hwraps, ofResource_eq_ok_iff.mpr ⟨userName, hfound, rfl⟩⟩

/-- **Whatever else the bytes are, they are malformed.** -/
theorem ofBody_malformed {body : List UInt8} {error : FetchError}
    (h : ofBody body = .error error) : ∃ reason, error = .malformed reason := by
  unfold ofBody at h
  dsimp only at h
  split at h
  · unfold ofResource at h
    split at h
    · cases h
    · cases h
      exact ⟨_, rfl⟩
  · cases h
    exact ⟨_, rfl⟩

end WorksheetBar.Profile
