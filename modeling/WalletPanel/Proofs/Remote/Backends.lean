import WalletPanel.Proofs.Text.Trimming
import WalletPanel.Proofs.Text.Utf8
import WalletPanel.Remote.Backend

/-!
# What is stray about a backend

Slashes are stray where the parts of a URL are joined, and blanks around a setting. This module says
what there is without them. The parts of a URL are what is left of the backend's URL, of its prefix
and of the path (`Backend.Parts`); the URL has one slash between any two of them, and the prefix is
a part unless it is nothing but slashes. A setting that is a text names the backend at what is left
of it between its blanks, and the standard one is named where nothing is left, and by what is no
text.

Both say that what is stray makes no difference (`Backend.urlOf_slashes`,
`Backend.ofSetting_between`). For a setting this includes the octets that are no text: blanks do not
make them one.
-/

namespace WalletPanel.Backend

open Text (Trims strip dropEnd isBlank octets)

/-! ### Slashes -/

/-- A row of slashes. -/
def slashes (n : Nat) : String := String.ofList (List.replicate n '/')

/-- What is all slashes is a row of them. -/
theorem all_isSlash_iff (s : List Char) : s.all isSlash = true ↔ ∃ n, s = (slashes n).toList := by
  simp only [slashes, String.toList_ofList, isSlash, List.all_eq_true, beq_iff_eq]
  constructor
  · exact fun h => ⟨s.length, List.eq_replicate_of_mem h⟩
  · rintro ⟨n, rfl⟩ c hc
    exact List.eq_of_mem_replicate hc

/-- A row of slashes is all slashes. -/
theorem all_slashes (n : Nat) : (slashes n).toList.all isSlash = true :=
  (all_isSlash_iff _).mpr ⟨n, rfl⟩

/-- A text is a row of slashes if nothing is left of it without them. -/
theorem eq_slashes_iff (s : String) : (∃ n, s = slashes n) ↔ strip isSlash s.toList = [] := by
  rw [Text.strip_eq_nil_iff, all_isSlash_iff]
  exact exists_congr fun n => String.toList_inj.symm

/-- What is no slash, or nothing at all, is no slash. -/
theorem ne_slash_of_isSlash {o : Option Char} (h : ∀ c ∈ o, isSlash c = false) : o ≠ some '/' := by
  rintro rfl
  cases h '/' rfl

/-! ### URLs -/

/-- The parts from which the URL of a path is joined: what is left of the backend's URL, of its
prefix and of the path when the slashes are cut off where they are joined. -/
structure Parts (b : Backend) (path base middle rest : String) : Prop where
  url : ∃ n, b.url = base ++ slashes n
  apiPrefix : ∃ m n, b.apiPrefix = slashes m ++ middle ++ slashes n
  path : ∃ n, path = slashes n ++ rest
  base_last : base.toList.getLast? ≠ some '/'
  middle_head : middle.toList.head? ≠ some '/'
  middle_last : middle.toList.getLast? ≠ some '/'
  rest_head : rest.toList.head? ≠ some '/'

/-- The parts that `join` works with are parts in this sense. -/
theorem parts (b : Backend) (path : String) :
    Parts b path (String.ofList (dropEnd isSlash b.url.toList))
      (String.ofList (strip isSlash b.apiPrefix.toList))
      (String.ofList (path.toList.dropWhile isSlash)) := by
  have htrims := Text.trims_strip isSlash b.apiPrefix.toList
  constructor
  · -- the backend's URL, cut at its end
    obtain ⟨after, hs, ha⟩ := Text.exists_append_dropEnd isSlash b.url.toList
    obtain ⟨n, rfl⟩ := (all_isSlash_iff after).mp ha
    exact ⟨n, String.toList_inj.mp (by rwa [String.toList_append, String.toList_ofList])⟩
  · -- the prefix, cut at both ends
    obtain ⟨before, after, hs, hb, ha⟩ := htrims.around
    obtain ⟨m, rfl⟩ := (all_isSlash_iff before).mp hb
    obtain ⟨n, rfl⟩ := (all_isSlash_iff after).mp ha
    refine ⟨m, n, String.toList_inj.mp ?_⟩
    rwa [String.toList_append, String.toList_append, String.toList_ofList]
  · -- the path, cut at its beginning
    obtain ⟨n, hn⟩ := (all_isSlash_iff (path.toList.takeWhile isSlash)).mp List.all_takeWhile
    refine ⟨n, String.toList_inj.mp ?_⟩
    rw [String.toList_append, String.toList_ofList, ← hn, List.takeWhile_append_dropWhile]
  -- where it was cut, no slash is left
  all_goals rw [String.toList_ofList]
  · exact ne_slash_of_isSlash fun c => Text.getLast_dropEnd
  · exact ne_slash_of_isSlash htrims.head
  · exact ne_slash_of_isSlash htrims.last
  · refine ne_slash_of_isSlash fun c hc => ?_
    obtain ⟨t, ht⟩ := List.head?_eq_some_iff.mp hc
    exact Text.head_of_dropWhile ht

/-- With a prefix of nothing but slashes there is one joint. -/
theorem urlOf_of_slashes {b : Backend} (h : ∃ n, b.apiPrefix = slashes n) (path : String) :
    b.urlOf path = String.ofList (dropEnd isSlash b.url.toList) ++ "/"
      ++ String.ofList (path.toList.dropWhile isSlash) := by
  refine String.toList_inj.mp ?_
  unfold urlOf join
  rw [String.toList_ofList, if_pos ((eq_slashes_iff _).mp h)]
  simp

/-- With any other prefix there are two. -/
theorem urlOf_of_not_slashes {b : Backend} (h : ¬ ∃ n, b.apiPrefix = slashes n) (path : String) :
    b.urlOf path = String.ofList (dropEnd isSlash b.url.toList) ++ "/"
      ++ String.ofList (strip isSlash b.apiPrefix.toList) ++ "/"
      ++ String.ofList (path.toList.dropWhile isSlash) := by
  refine String.toList_inj.mp ?_
  unfold urlOf join
  rw [String.toList_ofList, if_neg (mt (eq_slashes_iff _).mpr h)]
  simp

/-- One part more is one joint more, even if there is nothing in the part. -/
theorem joined_ne_joined (base middle rest : String) :
    base ++ "/" ++ rest ≠ base ++ "/" ++ middle ++ "/" ++ rest := by
  intro h
  -- the one is longer by a slash at least
  have hlength := congrArg String.length h
  simp only [String.length_append] at hlength
  have hslash : "/".length = 1 := rfl
  omega

/-- The prefix is a part of the URL unless it is nothing but slashes. -/
theorem exists_parts (b : Backend) (path : String) :
    ∃ base middle rest, Parts b path base middle rest ∧
      (b.urlOf path = base ++ "/" ++ rest ↔ ∃ n, b.apiPrefix = slashes n) ∧
      (b.urlOf path = base ++ "/" ++ middle ++ "/" ++ rest ↔ ¬ ∃ n, b.apiPrefix = slashes n) := by
  refine ⟨_, _, _, parts b path, ?_⟩
  by_cases h : ∃ n, b.apiPrefix = slashes n
  · rw [urlOf_of_slashes h]
    exact ⟨iff_of_true rfl h, iff_of_false (joined_ne_joined _ _ _) (not_not_intro h)⟩
  · rw [urlOf_of_not_slashes h]
    exact ⟨iff_of_false (joined_ne_joined _ _ _).symm h, iff_of_true rfl h⟩

/-- Slashes make no difference where parts are joined. -/
theorem urlOf_slashes (b : Backend) (path : String) (i j k l : Nat) :
    urlOf ⟨b.url ++ slashes i, slashes j ++ b.apiPrefix ++ slashes k⟩ (slashes l ++ path)
      = b.urlOf path := by
  unfold urlOf join
  simp only [String.toList_append]
  rw [Text.dropEnd_append (all_slashes i), Text.strip_append (all_slashes j) _ (all_slashes k),
    List.dropWhile_append_of_pos (List.all_eq_true.mp (all_slashes l))]

/-- All other slashes stay. -/
example : urlOf ⟨"http://h:1//", "//a//b//"⟩ "//x//" = "http://h:1/a//b/x//" := by
  decide +kernel

/-! ### Settings -/

/-- The backend that a text names: the one at what is left of it between its blanks, if anything is
left. -/
def ofText (text : List Char) : Backend :=
  if strip isBlank text = [] then standard
  else ⟨String.ofList (strip isBlank text), standard.apiPrefix⟩

/-- A setting names the backend that its text names, and the standard one if it is no text. -/
theorem ofSetting_some (value : List UInt8) :
    ofSetting (some value) = ((Text.characters? value).map ofText).getD standard := by
  unfold ofSetting Text.decode?
  rw [Option.bind_some]
  cases Text.characters? value with
  | none => rfl
  | some text =>
    dsimp only [Option.map_some, Option.getD_some]
    -- to be blank is to have nothing left when trimmed
    unfold ofText Text.allBlank Text.trimBlank
    rw [String.toList_ofList]
    simp only [Text.strip_eq_nil_iff]
    rfl

/-- The octets of a text name what the text names. -/
theorem ofSetting_octets (text : List Char) : ofSetting (some (octets text)) = ofText text := by
  rw [ofSetting_some, (Text.characters?_eq_some_iff _ text).mpr rfl]
  rfl

/-- Blanks around a setting make no difference, be it a text or not. -/
theorem ofSetting_between {before after : List Char} (hb : before.all isBlank = true)
    (ha : after.all isBlank = true) (value : List UInt8) :
    ofSetting (some (octets before ++ value ++ octets after)) = ofSetting (some value) := by
  -- on texts, blanks around make no difference
  have hsame : (ofText ∘ fun text => before ++ text ++ after) = ofText := by
    funext text
    unfold ofText
    dsimp only [Function.comp_apply]
    rw [Text.strip_append hb text ha]
  rw [ofSetting_some, Text.characters?_between, Option.map_map, hsame, ofSetting_some]

/-- A text that is not all blank names a backend of its own. -/
theorem ofText_of_not_blank {text : List Char} (h : ∃ c ∈ text, isBlank c = false) :
    ofText text = ⟨String.ofList (strip isBlank text), standard.apiPrefix⟩ := by
  refine if_neg fun hnil => ?_
  obtain ⟨c, hc, hleft⟩ := h
  rw [Text.strip_eq_nil_iff, List.all_eq_true] at hnil
  rw [hnil c hc] at hleft
  cases hleft

/-- A text names the standard backend if it is blank, or has the standard URL between its blanks. -/
theorem ofText_eq_standard_iff (text : List Char) :
    ofText text = standard ↔
      (∀ c ∈ text, isBlank c = true) ∨ Trims isBlank text standard.url.toList := by
  rw [← List.all_eq_true, ← Text.strip_eq_nil_iff, ← Text.strip_eq_iff]
  unfold ofText
  split
  · -- a blank text
    rename_i hnil
    exact iff_of_true rfl (Or.inl hnil)
  · -- a text that is the URL itself
    rename_i hleft
    rw [or_iff_right hleft]
    constructor
    · intro h
      rw [← h, String.toList_ofList]
    · intro h
      rw [h, String.ofList_toList]

/-- The standard backend is the one of settings that name none, and of those that name it. -/
theorem ofSetting_eq_standard_iff (setting : Option (List UInt8)) :
    ofSetting setting = standard ↔
      setting = none ∨ (∃ value, setting = some value ∧ ∀ text, octets text ≠ value) ∨
        ∃ text, setting = some (octets text) ∧
          ((∀ c ∈ text, isBlank c = true) ∨ Trims isBlank text standard.url.toList) := by
  cases setting with
  | none => exact iff_of_true rfl (Or.inl rfl)
  | some value =>
    -- octets are a text or none, and if they are, they are the octets of that text
    cases hv : Text.characters? value with
    | none =>
      refine iff_of_true ?_ (Or.inr (Or.inl ⟨value, rfl, fun text ht => ?_⟩))
      · rw [ofSetting_some, hv]
        rfl
      · rw [(Text.characters?_eq_some_iff value text).mpr ht] at hv
        cases hv
    | some text =>
      obtain rfl := (Text.characters?_eq_some_iff value text).mp hv
      rw [ofSetting_octets, ofText_eq_standard_iff]
      constructor
      · exact fun h => Or.inr (Or.inr ⟨text, rfl, h⟩)
      · rintro (h | ⟨_, h, hnone⟩ | ⟨other, h, hother⟩)
        · cases h
        · exact absurd (Option.some.inj h) (hnone text)
        · rwa [Text.octets_injective (Option.some.inj h)]

/-- **What is stray is cut off.** The URL of a path is joined from its parts with one slash at each
joint. The prefix is left out exactly if it is nothing but slashes, and nothing in the parts is
changed. Slashes at the end of the backend's URL, at either end of the prefix or at the beginning of
the path can be put there or taken away, and the URL stays the same. A setting is the standard
backend exactly if it is missing, no text or blank, or comes to the standard URL; a setting that is
not blank is the backend at what is left between its blanks, with the standard prefix; and blanks
can be put around any setting, and it stays the same backend. -/
theorem strays_are_cut_off :
    (∀ (b : Backend) (path : String),
      (∃ base middle rest, Parts b path base middle rest ∧
        (b.urlOf path = base ++ "/" ++ rest ↔ ∃ n, b.apiPrefix = slashes n) ∧
        (b.urlOf path = base ++ "/" ++ middle ++ "/" ++ rest ↔
          ¬ ∃ n, b.apiPrefix = slashes n)) ∧
      ∀ i j k l,
        urlOf ⟨b.url ++ slashes i, slashes j ++ b.apiPrefix ++ slashes k⟩ (slashes l ++ path)
          = b.urlOf path) ∧
    (∀ setting, ofSetting setting = standard ↔
      setting = none ∨ (∃ value, setting = some value ∧ ∀ text, octets text ≠ value) ∨
        ∃ text, setting = some (octets text) ∧
          ((∀ c ∈ text, isBlank c = true) ∨ Trims isBlank text standard.url.toList)) ∧
    (∀ text, (∃ c ∈ text, isBlank c = false) →
      ∃ core, Trims isBlank text core ∧
        ofSetting (some (octets text)) = ⟨String.ofList core, standard.apiPrefix⟩) ∧
    ∀ before value after, (∀ c ∈ before, isBlank c = true) → (∀ c ∈ after, isBlank c = true) →
      ofSetting (some (octets before ++ value ++ octets after)) = ofSetting (some value) := by
  refine ⟨fun b path => ⟨exists_parts b path, urlOf_slashes b path⟩, ofSetting_eq_standard_iff,
    fun text h => ⟨_, Text.trims_strip isBlank text, ?_⟩, fun before value after hb ha => ?_⟩
  · -- a setting that is not blank
    rw [ofSetting_octets]
    exact ofText_of_not_blank h
  · -- blanks around any setting
    exact ofSetting_between (List.all_eq_true.mpr hb) (List.all_eq_true.mpr ha) value

/-- A text with a blank in it that is no stray one. -/
def parted : List Char := "http://h/a b".toList

/-- Blanks of more octets than one are cut off as well. -/
theorem parted_is_cut_out :
    (∀ c ∈ ['\u00a0', '\n'], isBlank c = true) ∧ (∀ c ∈ ['\u3000'], isBlank c = true) ∧
    (∃ c ∈ parted, isBlank c = false) ∧
    ofSetting (some (octets ['\u00a0', '\n'] ++ octets parted ++ octets ['\u3000']))
      = ⟨"http://h/a b", "/api"⟩ := by
  have hb : ∀ c ∈ ['\u00a0', '\n'], isBlank c = true := List.all_eq_true.mp (by decide)
  have ha : ∀ c ∈ ['\u3000'], isBlank c = true := List.all_eq_true.mp (by decide)
  have hleft : ∃ c ∈ parted, isBlank c = false := ⟨'h', by decide, by decide⟩
  obtain ⟨-, -, hnamed, haround⟩ := strays_are_cut_off
  obtain ⟨core, hcore, hbackend⟩ := hnamed parted hleft
  have hparted : strip isBlank parted = parted := by decide
  refine ⟨hb, ha, hleft, ?_⟩
  rw [haround _ _ _ hb ha, hbackend, ← (Text.strip_eq_iff _ _ _).mpr hcore, hparted]
  rfl

end WalletPanel.Backend
