import SequenceApi.Document.Scheme
import SequenceApi.Proofs.Table

/-!
# Names of security schemes

A document declares each security scheme under the name of its mechanism, and the name is made from
free text: scopes are put together with commas, and a mechanism that is not known has its whole text
for a name. Still the mechanism can be read off the name. Scopes hold no comma, since they are what
stands between commas; and a text that reads like the name of a known mechanism declares a known
mechanism. So declarations with one name declare one mechanism, and have one scheme.

## Main definitions

* `Descriptor.IsDeclared`: the declaration of some text
* `Mechanism.ofKey`: the mechanism with a name
* `Json.at?`: the value at the end of a path of keys

## Main results

* `Descriptor.ofKey_key`: the mechanism of a declaration is that of its name
* `Descriptor.scheme?_eq_of_key_eq`: declarations with one name have one scheme
* `Descriptor.at?_scopes_of_scheme?`: a scheme has all scopes that are required
-/

namespace SequenceApi

open Text

/-! ## Texts -/

namespace Text

theorem mem_of_mem_trim {c : Char} {cs : List Char} (h : c ∈ trim cs) : c ∈ cs := by
  have hright : c ∈ skipBlanks cs := by
    rw [trim, trimRight, List.mem_reverse] at h
    exact List.mem_reverse.1 (List.dropWhile_subset _ h)
  exact List.dropWhile_subset _ hright

/-- Parts between commas hold no comma. -/
theorem comma_not_mem_of_mem_listed {s : String} {cs : List Char} (h : s ∈ Note.listed cs) :
    ',' ∉ s.toList := by
  obtain ⟨p, hp, rfl⟩ := List.mem_map.1 h
  obtain ⟨q, hq, rfl⟩ := List.mem_map.1 (List.mem_of_mem_filter hp)
  rw [String.toList_ofList]
  exact fun hmem => not_mem_of_mem_pieces hq (mem_of_mem_trim hmem)

/-- ASCII letters at the start of a text are put into lower case one by one. -/
theorem exists_lowerAfter_append {cs : List Char} (h : ∀ c ∈ cs, c.toNat < 0x80) (ds : List Char) :
    ∀ cased, ∃ cased', lowerAfter cased (cs ++ ds) = cs.map Char.toLower ++ lowerAfter cased' ds := by
  induction cs with
  | nil => exact fun cased => ⟨cased, rfl⟩
  | cons c cs ih =>
    intro cased
    obtain ⟨hc, hcs⟩ := List.forall_mem_cons.1 h
    obtain ⟨cased', hrest⟩ := ih hcs (if isPassive c then cased else isCased c)
    exact ⟨cased', by rw [List.cons_append, lowerAfter_cons_of_ascii hc, hrest]; rfl⟩

end Text

/-! ## Declarations -/

namespace Descriptor

/-- The declaration of some text. -/
def IsDeclared (d : Descriptor) : Prop :=
  ∃ cs, d = ofText cs

theorem isDeclared_of_mem_ofNote {d : Descriptor} {content : String} (h : d ∈ ofNote content) :
    d.IsDeclared := by
  obtain ⟨value, -, rfl⟩ := List.mem_map.1 h
  exact ⟨trim value, rfl⟩

theorem comma_not_mem_of_scopesHere? {cs : List Char} {scopes : List String}
    (h : scopesHere? cs = some scopes) : ∀ s ∈ scopes, ',' ∉ s.toList := by
  unfold scopesHere? at h
  split at h
  · split at h
    · split at h
      · cases h
      · obtain rfl := Option.some_inj.1 h
        exact fun s hs => comma_not_mem_of_mem_listed hs
    · cases h
  · cases h

/-- Scopes hold no comma. -/
theorem comma_not_mem_of_mechanismOf {cs : List Char} {scopes : List String}
    (h : mechanismOf cs = .oauth2 scopes) : ∀ s ∈ scopes, ',' ∉ s.toList := by
  unfold mechanismOf at h
  dsimp only at h
  split_ifs at h
  obtain rfl := Mechanism.oauth2.inj h
  cases hfirst : firstMatch (fun _ here => scopesHere? here) none cs with
  | none => simp
  | some scopes =>
    obtain ⟨-, here, hhere⟩ := exists_of_firstMatch hfirst
    exact comma_not_mem_of_scopesHere? hhere

/-- A text that starts like the name of a mechanism with scopes declares a known one. -/
theorem mechanismOf_ne_custom_of_oauth2 {cs : List Char}
    (h : "oauth2:".toList.isPrefixOf cs = true) : mechanismOf cs ≠ .custom := by
  obtain ⟨rest, rfl⟩ := List.isPrefixOf_iff_prefix.1 h
  have hlower : "oauth2".toList.isPrefixOf (lower ("oauth2:".toList ++ rest)) = true := by
    have hascii : ∀ c ∈ "oauth2:".toList, c.toNat < 0x80 := by simp
    obtain ⟨cased, hcased⟩ := exists_lowerAfter_append hascii rest false
    rw [lower, hcased, List.isPrefixOf_iff_prefix]
    exact ⟨':' :: lowerAfter cased rest, rfl⟩
  intro hcustom
  unfold mechanismOf at hcustom
  dsimp only at hcustom
  split_ifs at hcustom

end Descriptor

/-! ## Names -/

/-- The mechanism with a name. -/
def Mechanism.ofKey (key : String) : Mechanism :=
  if key = "bearerAuth" then .bearer
  else if key = "basicAuth" then .basic
  else if key = "apiKey_header" then .apiKey .header
  else if key = "apiKey_query" then .apiKey .query
  else if key = "openIdConnect" then .openIdConnect
  else if key = "oauth2" then .oauth2 []
  else if "oauth2:".toList.isPrefixOf key.toList then
    .oauth2 ((pieces ',' (key.toList.drop 7)).map String.ofList)
  else .custom

namespace Mechanism

/-- The names of known mechanisms without scopes. -/
def plainKeys : List String :=
  ["bearerAuth", "basicAuth", "apiKey_header", "apiKey_query", "openIdConnect", "oauth2"]

/-- A name that is none of those. -/
theorem ofKey_of_not_mem {key : String} (h : key ∉ plainKeys) :
    ofKey key =
      if "oauth2:".toList.isPrefixOf key.toList then
        .oauth2 ((pieces ',' (key.toList.drop 7)).map String.ofList)
      else .custom := by
  simp only [plainKeys, List.mem_cons, List.not_mem_nil, or_false, not_or] at h
  obtain ⟨h₁, h₂, h₃, h₄, h₅, h₆⟩ := h
  rw [ofKey, if_neg h₁, if_neg h₂, if_neg h₃, if_neg h₄, if_neg h₅, if_neg h₆]

/-- The scopes can be read off a name. -/
theorem ofKey_scopes {scopes : List String} (hne : scopes ≠ [])
    (h : ∀ s ∈ scopes, ',' ∉ s.toList) :
    ofKey ("oauth2:" ++ joined "," scopes) = .oauth2 scopes := by
  have hchars : ("oauth2:" ++ joined "," scopes).toList =
      "oauth2:".toList ++ (joined "," scopes).toList := String.toList_append
  have hprefix : "oauth2:".toList.isPrefixOf ("oauth2:" ++ joined "," scopes).toList = true := by
    rw [hchars, List.isPrefixOf_iff_prefix]
    exact List.prefix_append ..
  have hplain : "oauth2:" ++ joined "," scopes ∉ plainKeys := by
    -- no name without scopes starts so
    intro hmem
    have hnone : ∀ k ∈ plainKeys, "oauth2:".toList.isPrefixOf k.toList = false := by decide +kernel
    rw [hnone _ hmem] at hprefix
    cases hprefix
  rw [ofKey_of_not_mem hplain, if_pos hprefix, hchars, List.drop_left' (by decide)]
  have hpieces : pieces ',' (joined "," scopes).toList = scopes.map String.toList :=
    pieces_joined hne h
  rw [hpieces, List.map_map]
  congr 1
  exact List.map_id'' (fun s => String.ofList_toList) scopes

end Mechanism

namespace Descriptor

variable {d d' : Descriptor}

/-- The mechanism of a declaration is that of its name. -/
theorem ofKey_key (h : d.IsDeclared) : Mechanism.ofKey d.key = d.mechanism := by
  obtain ⟨cs, rfl⟩ := h
  rw [key]
  cases hm : (ofText cs).mechanism with
  | bearer => exact (by decide +kernel : Mechanism.ofKey "bearerAuth" = .bearer)
  | basic => exact (by decide +kernel : Mechanism.ofKey "basicAuth" = .basic)
  | openIdConnect => exact (by decide +kernel : Mechanism.ofKey "openIdConnect" = .openIdConnect)
  | apiKey place =>
    have hplace : ∀ place : KeyPlace,
        Mechanism.ofKey ("apiKey_" ++ place.name) = .apiKey place := by
      rintro (_ | _) <;> decide +kernel
    exact hplace place
  | oauth2 scopes =>
    cases scopes with
    | nil => exact (by decide +kernel : Mechanism.ofKey "oauth2" = .oauth2 [])
    | cons s scopes =>
      exact Mechanism.ofKey_scopes (List.cons_ne_nil s scopes) (comma_not_mem_of_mechanismOf hm)
  | custom =>
    -- a text that is one of the names, or starts like one with scopes, is known
    have hcustom : mechanismOf cs = .custom := hm
    have hplain : String.ofList cs ∉ Mechanism.plainKeys := by
      intro hmem
      have hknown : ∀ k ∈ Mechanism.plainKeys, mechanismOf k.toList ≠ .custom := by decide +kernel
      exact hknown _ hmem (by rwa [String.toList_ofList])
    have hscopes : ¬ "oauth2:".toList.isPrefixOf (String.ofList cs).toList = true := by
      intro hprefix
      rw [String.toList_ofList (l := cs)] at hprefix
      exact mechanismOf_ne_custom_of_oauth2 hprefix hcustom
    exact (Mechanism.ofKey_of_not_mem hplain).trans (if_neg hscopes)

/-- Declarations with one name declare one mechanism. -/
theorem mechanism_eq_of_key_eq (h : d.IsDeclared) (h' : d'.IsDeclared) (hkey : d.key = d'.key) :
    d.mechanism = d'.mechanism := by
  rw [← ofKey_key h, hkey, ofKey_key h']

/-- Declarations with one name have one scheme. -/
theorem scheme?_eq_of_key_eq (h : d.IsDeclared) (h' : d'.IsDeclared) (hkey : d.key = d'.key)
    (settings : Settings) : d.scheme? settings = d'.scheme? settings := by
  rw [scheme?, scheme?, mechanism_eq_of_key_eq h h' hkey]

/-- Only a mechanism that is not known has no scheme. -/
theorem scheme?_eq_none_iff {settings : Settings} :
    d.scheme? settings = none ↔ d.mechanism = .custom := by
  unfold scheme?
  cases d.mechanism <;> simp

end Descriptor

/-! ## Scopes -/

/-- The value at the end of a path of keys. -/
def Json.at? : List String → Json → Option Json
  | [], v => some v
  | k :: path, v => (v.get? k).bind (at? path)

/-- The scheme of a mechanism has all scopes that the mechanism asks for. -/
theorem Descriptor.at?_scopes_of_scheme? {d : Descriptor} {settings : Settings} {scheme : Json}
    (h : d.scheme? settings = some scheme) {scope : String} (hscope : scope ∈ d.mechanism.scopes) :
    ∃ v, scheme.at? ["flows", "implicit", "scopes", scope] = some v := by
  unfold scheme? at h
  cases hm : d.mechanism with
  | oauth2 scopes =>
    rw [hm] at h hscope
    obtain rfl := Option.some_inj.1 h
    have hkey : scope ∈ Table.keys (scopes.map fun x => (x, Json.str (x ++ " permission"))) := by
      simpa [Table.keys, Mechanism.scopes] using hscope
    obtain ⟨v, hv⟩ := Table.exists_find_ofEntries hkey
    exact ⟨v, by simpa [Json.at?, Json.get?, Table.find] using hv⟩
  | _ => simp [hm, Mechanism.scopes] at hscope

end SequenceApi
