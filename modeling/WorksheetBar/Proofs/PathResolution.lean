import Mathlib.Data.List.DropRight
import WorksheetBar.Http.Client

/-!
# Where a path leads

A path that is an address of its own leads there.  Any other stands behind the base of the
service, with exactly one slash between them: the slashes at the end of the base do not count,
and neither does the first one of the path.  All others are kept, so a path never leaves the
base and is never joined to it.

Only the front of the base, without its slashes, tells whether what comes out is an address
again.  If it is, an address that was made from a path leads to itself.

* `trimSlashes_append_replicate` — slashes at the end of the base do not count;
* `resolveFrom_of_relative` — what a path comes to is the front of the base, a slash and the path;
* `resolveFrom_resolveFrom` — addresses lead to themselves;
* `resolve_stays_on_base` — the same of texts, with the base taken apart by its spelling.
-/

namespace WorksheetBar.Http.Client

/-! ## Characters -/

section Characters

variable {base path : List Char}

/-- A path that begins with a slash is no address. -/
theorem isAbsolute_slash (path : List Char) : isAbsolute ('/' :: path) = false := rfl

/-- An address begins with one of the two schemes. -/
theorem isAbsolute_iff :
    isAbsolute path = true ↔ "http://".toList <+: path ∨ "https://".toList <+: path := by
  rw [isAbsolute, Bool.or_eq_true, List.isPrefixOf_iff_prefix, List.isPrefixOf_iff_prefix]

/-- What begins with an address is an address. -/
theorem isAbsolute_append (habsolute : isAbsolute path = true) (behind : List Char) :
    isAbsolute (path ++ behind) = true := by
  rw [isAbsolute_iff] at habsolute ⊢
  exact habsolute.imp (fun h => h.trans (List.prefix_append _ _))
    fun h => h.trans (List.prefix_append _ _)

/-- Slashes are dropped from the end as long as there are any. -/
theorem trimSlashes_eq_rdropWhile (base : List Char) :
    trimSlashes base = base.rdropWhile (· == '/') := rfl

/-- **Slashes at the end of the base do not count.** -/
theorem trimSlashes_append_replicate (base : List Char) (count : Nat) :
    trimSlashes (base ++ List.replicate count '/') = trimSlashes base := by
  induction count with
  | zero => rw [List.replicate_zero, List.append_nil]
  | succ count ih =>
      rw [List.replicate_succ', ← List.append_assoc, trimSlashes_eq_rdropWhile,
        List.rdropWhile_concat_pos _ _ _ rfl, ← trimSlashes_eq_rdropWhile, ih]

/-- A base is trimmed already if it does not end with a slash. -/
theorem trimSlashes_eq_self (hend : ∀ rest, base ≠ rest ++ ['/']) : trimSlashes base = base := by
  refine List.rdropWhile_eq_self_iff.mpr fun hne hslash => ?_
  refine hend base.dropLast ?_
  rw [← beq_iff_eq.mp hslash, List.dropLast_append_getLast]

/-- What is left does not end in a slash. -/
theorem trimSlashes_ne_append_slash (base rest : List Char) : trimSlashes base ≠ rest ++ ['/'] := by
  intro hslash
  have hne : trimSlashes base ≠ [] := by simp [hslash]
  have hlast : (trimSlashes base).getLast hne = '/' := by simp [hslash]
  exact List.rdropWhile_last_not _ _ hne (beq_iff_eq.mpr hlast)

/-- A base is its front with slashes behind it. -/
theorem exists_eq_trimSlashes_append (base : List Char) :
    ∃ count, base = trimSlashes base ++ List.replicate count '/' := by
  refine ⟨(base.rtakeWhile (· == '/')).length, ?_⟩
  have hslashes : base.rtakeWhile (· == '/') =
      List.replicate (base.rtakeWhile (· == '/')).length '/' :=
    List.eq_replicate_of_mem fun c hc => by simpa using List.mem_rtakeWhile_imp hc
  rw [← hslashes]
  exact List.rdropWhile_append_rtakeWhile.symm

/-- How many slashes the base ended in makes no difference. -/
theorem resolveFrom_append_replicate (base path : List Char) (count : Nat) :
    resolveFrom (base ++ List.replicate count '/') path = resolveFrom base path := by
  rw [resolveFrom, trimSlashes_append_replicate, resolveFrom]

/-- What a path comes to that is no address of its own. -/
theorem resolveFrom_of_relative (hrelative : isAbsolute path = false) :
    resolveFrom base path = trimSlashes base ++ '/' :: dropSlash path := by
  rw [resolveFrom, hrelative]
  rfl

/-- **Addresses lead to themselves**, also those that are made from a path, if the front of the
base begins one. -/
theorem resolveFrom_resolveFrom (hbase : isAbsolute (trimSlashes base) = true)
    (path : List Char) : resolveFrom base (resolveFrom base path) = resolveFrom base path := by
  have habsolute : isAbsolute (resolveFrom base path) = true := by
    rw [resolveFrom]
    split
    · assumption
    · exact isAbsolute_append hbase _
  rw [resolveFrom, if_pos habsolute]

end Characters

/-! ## Texts -/

/-- A text that is an address of its own. -/
def IsAddress (text : String) : Prop :=
  ∃ rest : String, text = "http://" ++ rest ∨ text = "https://" ++ rest

/-- A text of so many slashes. -/
def slashes (count : Nat) : String := String.ofList (List.replicate count '/')

/-- The front of a base: what is left of it without the slashes at its end. -/
def IsFront (front base : String) : Prop :=
  (∃ count, base = front ++ slashes count) ∧ ∀ rest, front ≠ rest ++ "/"

theorem toList_slash_append (rest : String) : ("/" ++ rest).toList = '/' :: rest.toList := by
  rw [String.toList_append]
  rfl

/-- A text begins with another if it is that and a rest. -/
theorem prefix_toList_iff {front text : String} :
    front.toList <+: text.toList ↔ ∃ rest : String, text = front ++ rest := by
  constructor
  · rintro ⟨rest, hrest⟩
    refine ⟨String.ofList rest, String.toList_injective ?_⟩
    rw [String.toList_append, String.toList_ofList, hrest]
  · rintro ⟨rest, rfl⟩
    rw [String.toList_append]
    exact List.prefix_append _ _

/-- Whether a text is an address is seen from its characters. -/
theorem isAbsolute_toList_iff {text : String} :
    isAbsolute text.toList = true ↔ IsAddress text := by
  rw [isAbsolute_iff, prefix_toList_iff, prefix_toList_iff, IsAddress, exists_or]

instance (text : String) : Decidable (IsAddress text) :=
  decidable_of_iff _ isAbsolute_toList_iff

/-- What is no address is a path on the base. -/
theorem isAbsolute_of_not_isAddress {path : String} (h : ¬ IsAddress path) :
    isAbsolute path.toList = false := by
  rwa [← isAbsolute_toList_iff, Bool.not_eq_true] at h

/-- Resolving goes by characters. -/
theorem toList_resolve (client : Client) (path : String) :
    (client.resolve path).toList = resolveFrom client.baseUrl.toList path.toList :=
  String.toList_ofList

/-- The characters of some slashes. -/
theorem toList_slashes (count : Nat) : (slashes count).toList = List.replicate count '/' :=
  String.toList_ofList

/-- The front of a base is what trimming leaves of it. -/
theorem IsFront.trimSlashes_eq {front base : String} (h : IsFront front base) :
    trimSlashes base.toList = front.toList := by
  obtain ⟨⟨count, rfl⟩, hend⟩ := h
  rw [String.toList_append, toList_slashes, trimSlashes_append_replicate]
  refine trimSlashes_eq_self fun rest hrest => hend (String.ofList rest) ?_
  apply String.toList_injective
  rw [hrest, String.toList_append, String.toList_ofList]
  rfl

/-- A path without a slash at its front has none to lose. -/
theorem dropSlash_of_not_slash {path : String} (h : ∀ rest, path ≠ "/" ++ rest) :
    dropSlash path.toList = path.toList := by
  unfold dropSlash
  split
  · next rest hrest =>
      refine absurd (String.toList_injective ?_) (h (String.ofList rest))
      rw [hrest, toList_slash_append, String.toList_ofList]
  · rfl

/-- Every base has a front. -/
theorem exists_isFront (base : String) : ∃ front, IsFront front base := by
  refine ⟨String.ofList (trimSlashes base.toList), ?_, fun rest hrest => ?_⟩
  · obtain ⟨count, hcount⟩ := exists_eq_trimSlashes_append base.toList
    refine ⟨count, String.toList_injective ?_⟩
    rw [String.toList_append, String.toList_ofList, toList_slashes]
    exact hcount
  · refine trimSlashes_ne_append_slash base.toList rest.toList ?_
    have hlist := congrArg String.toList hrest
    rwa [String.toList_ofList, String.toList_append] at hlist

/-- What a path comes to, told by its spelling. -/
theorem resolve_of_relative {client : Client} {front path rest : String}
    (hfront : IsFront front client.baseUrl) (hrelative : ¬ IsAddress path)
    (hrest : dropSlash path.toList = rest.toList) :
    client.resolve path = front ++ "/" ++ rest := by
  apply String.toList_injective
  rw [toList_resolve, resolveFrom_of_relative (isAbsolute_of_not_isAddress hrelative),
    hfront.trimSlashes_eq, hrest, String.toList_append, String.toList_append, List.append_assoc]
  rfl

/-- **A path stays on the base.**  More slashes at the end of the base make no difference, and a
path leads to the same place with a slash in front of it as without one.  Every base has a front,
which is what is left of it without the slashes at its end.  A path that is no address comes to
the front, a slash and the path without its own first slash, if it has one, and nothing else of
it changes; and if the front is an address, whatever a path comes to leads to itself. -/
theorem resolve_stays_on_base (client : Client) :
    (∀ (count : Nat) (path : String),
      { client with baseUrl := client.baseUrl ++ slashes count }.resolve path =
        client.resolve path) ∧
    (∀ path : String, ¬ IsAddress path → (∀ rest, path ≠ "/" ++ rest) →
      client.resolve ("/" ++ path) = client.resolve path) ∧
    (∃ front, IsFront front client.baseUrl) ∧
    ∀ front, IsFront front client.baseUrl →
      (∀ path : String, ¬ IsAddress path → ∃ rest : String,
        (path = "/" ++ rest ∨ path = rest ∧ ∀ other, path ≠ "/" ++ other) ∧
          client.resolve path = front ++ "/" ++ rest) ∧
      (IsAddress front → ∀ path : String,
        client.resolve (client.resolve path) = client.resolve path) := by
  refine ⟨fun count path => ?_, fun path hrelative hslash => ?_, exists_isFront _,
    fun front hfront => ⟨fun path hrelative => ?_, fun haddress path => ?_⟩⟩
  · apply String.toList_injective
    rw [toList_resolve, String.toList_append, toList_slashes, resolveFrom_append_replicate,
      toList_resolve]
  · apply String.toList_injective
    rw [toList_resolve, toList_resolve, toList_slash_append,
      resolveFrom_of_relative (isAbsolute_slash path.toList),
      resolveFrom_of_relative (isAbsolute_of_not_isAddress hrelative),
      dropSlash_of_not_slash hslash, dropSlash]
  · by_cases hslash : ∃ rest, path = "/" ++ rest
    · obtain ⟨rest, rfl⟩ := hslash
      refine ⟨rest, .inl rfl, resolve_of_relative hfront hrelative ?_⟩
      rw [toList_slash_append, dropSlash]
    · have hslash' : ∀ rest, path ≠ "/" ++ rest := not_exists.mp hslash
      exact ⟨path, .inr ⟨rfl, hslash'⟩,
        resolve_of_relative hfront hrelative (dropSlash_of_not_slash hslash')⟩
  · apply String.toList_injective
    rw [toList_resolve, toList_resolve, resolveFrom_resolveFrom]
    rw [hfront.trimSlashes_eq]
    exact isAbsolute_toList_iff.mpr haddress

/-- A base with slashes behind it, and a path with slashes in it and behind it. -/
theorem resolve_stays_on_base_slashes :
    let client : Client := { baseUrl := "https://worksheets.example.org/" }
    ¬ IsAddress "rest//user/" ∧ IsFront "https://worksheets.example.org" client.baseUrl ∧
      { client with baseUrl := client.baseUrl ++ slashes 2 }.resolve "rest//user/" =
        client.resolve "rest//user/" ∧
      client.resolve ("/" ++ "rest//user/") = client.resolve "rest//user/" ∧
      client.resolve "rest//user/" = "https://worksheets.example.org" ++ "/" ++ "rest//user/" ∧
      client.resolve (client.resolve "rest//user/") = client.resolve "rest//user/" := by
  intro client
  have hrelative : ¬ IsAddress "rest//user/" := by decide
  have hslash (rest : String) : "rest//user/" ≠ "/" ++ rest := by
    intro h
    have hlist := congrArg String.toList h
    rw [toList_slash_append] at hlist
    exact absurd (List.cons.inj hlist).1 (by decide)
  have hfront : IsFront "https://worksheets.example.org" client.baseUrl := by
    refine ⟨⟨1, rfl⟩, fun rest h => ?_⟩
    have hlist := congrArg (fun text => text.toList.getLast?) h
    rw [String.toList_append, show "/".toList = ['/'] from rfl, List.getLast?_concat] at hlist
    exact absurd hlist (by decide)
  obtain ⟨hmore, hsame, _, hplaced⟩ := resolve_stays_on_base client
  obtain ⟨hresolved, htwice⟩ := hplaced _ hfront
  obtain ⟨rest, hrest, haddress⟩ := hresolved _ hrelative
  obtain ⟨rfl, _⟩ := hrest.resolve_left (hslash rest)
  exact ⟨hrelative, hfront, hmore 2 _, hsame _ hrelative hslash, haddress, htwice (by decide) _⟩

/-- Where the front of the base is a bare scheme, a path may come to something that is no
address, and what comes of it again is something else. -/
example :
    let client : Client := { baseUrl := "http://" }
    client.resolve "a" = "http:/a" ∧ client.resolve "http:/a" = "http:/http:/a" := by
  decide

end WorksheetBar.Http.Client
