import ServiceProbe.Proofs.Json
/-!
Documents that differ in the order of members and of items only. They have the same keys, each as many
times, and the same strings and bare tokens under each of them.
-/
namespace ServiceProbe.Json

variable {part : Part} {document other : Json part} {key : Text}

/-- Members and items may change places with their neighbours, at any depth. -/
inductive Rearranged : {part : Part} → Json part → Json part → Prop where
  | refl {part : Part} (document : Json part) : Rearranged document document
  | trans {part : Part} {first second third : Json part} (before : Rearranged first second)
    (behind : Rearranged second third) : Rearranged first third
  | object {members others : Json .members} (inside : Rearranged members others) :
    Rearranged (object members) (object others)
  | array {items others : Json .items} (inside : Rearranged items others) :
    Rearranged (array items) (array others)
  | member (key : Text) {value another : Json .value} {rest others : Json .members}
    (here : Rearranged value another) (later : Rearranged rest others) :
    Rearranged (member key value rest) (member key another others)
  | swapMembers (first second : Text) (value another : Json .value) (rest : Json .members) :
    Rearranged (member first value (member second another rest))
      (member second another (member first value rest))
  | item {value another : Json .value} {rest others : Json .items}
    (here : Rearranged value another) (later : Rearranged rest others) :
    Rearranged (item value rest) (item another others)
  | swapItems (value another : Json .value) (rest : Json .items) :
    Rearranged (item value (item another rest)) (item another (item value rest))

/-- A string or a bare token. -/
def IsLeaf : {part : Part} → Json part → Prop
  | _, string _ => True
  | _, bare _ => True
  | _, _ => False

/-! Documents whose tokens are written as they are. -/

theorem plain_comma (rest : Json part) : ∀ token ∈ rest.comma, token.Plain := by
  intro token member
  cases rest with
  | string | bare | object | array | noMember | noItem => cases member
  | member | item =>
    rw [List.mem_singleton.mp member]
    decide

theorem plain_object {members : Json .members} :
    (∀ token ∈ (Json.object members).tokens, token.Plain) ↔
      ∀ token ∈ members.tokens, token.Plain := by
  simp only [tokens, List.forall_mem_cons, and_iff_right_iff_imp]
  intro _
  decide

theorem plain_array {items : Json .items} :
    (∀ token ∈ (Json.array items).tokens, token.Plain) ↔
      ∀ token ∈ items.tokens, token.Plain := by
  simp only [tokens, List.forall_mem_cons, and_iff_right_iff_imp]
  intro _
  decide

theorem plain_member {value : Json .value} {rest : Json .members} :
    (∀ token ∈ (Json.member key value rest).tokens, token.Plain) ↔
      (Token.string key).Plain ∧ (∀ token ∈ value.tokens, token.Plain) ∧
        ∀ token ∈ rest.tokens, token.Plain := by
  have colon : (Token.mark ':').Plain := by decide
  have comma := plain_comma rest
  simp only [tokens, List.forall_mem_cons, List.forall_mem_append, colon, true_and]
  exact ⟨fun whole => ⟨whole.1, whole.2.1, whole.2.2.2⟩,
    fun parts => ⟨parts.1, parts.2.1, comma, parts.2.2⟩⟩

theorem plain_item {value : Json .value} {rest : Json .items} :
    (∀ token ∈ (Json.item value rest).tokens, token.Plain) ↔
      (∀ token ∈ value.tokens, token.Plain) ∧ ∀ token ∈ rest.tokens, token.Plain := by
  have comma := plain_comma rest
  simp only [tokens, List.forall_mem_append]
  exact ⟨fun whole => ⟨whole.1, whole.2.2⟩, fun parts => ⟨parts.1, comma, parts.2⟩⟩

namespace Rearranged

theorem symm (rearranged : Rearranged document other) : Rearranged other document := by
  induction rearranged with
  | refl document => exact .refl document
  | trans _ _ before behind => exact .trans behind before
  | object _ ih => exact .object ih
  | array _ ih => exact .array ih
  | member key _ _ here later => exact .member key here later
  | swapMembers first second value another rest => exact .swapMembers second first another value rest
  | item _ _ here later => exact .item here later
  | swapItems value another rest => exact .swapItems another value rest

theorem keys_perm (rearranged : Rearranged document other) : document.keys.Perm other.keys := by
  induction rearranged with
  | refl => exact .refl _
  | trans _ _ before behind => exact before.trans behind
  | object _ ih | array _ ih => exact ih
  | member key _ _ here later => exact (here.append later).cons key
  | swapMembers first second value another rest =>
    -- The keys of the second value come first, and between them stands the first key.
    have keys : ((first :: value.keys) ++ (second :: another.keys)).Perm
        ((second :: another.keys) ++ (first :: value.keys)) := List.perm_append_comm
    simpa [Json.keys] using keys.append_right rest.keys
  | item _ _ here later => exact here.append later
  | swapItems value another rest =>
    have keys : (value.keys ++ another.keys).Perm (another.keys ++ value.keys) :=
      List.perm_append_comm
    simpa [Json.keys] using keys.append_right rest.keys

theorem plain (rearranged : Rearranged document other) :
    (∀ token ∈ document.tokens, token.Plain) → ∀ token ∈ other.tokens, token.Plain := by
  induction rearranged with
  | refl => exact id
  | trans _ _ before behind => exact behind ∘ before
  | object _ ih => exact fun whole => plain_object.mpr (ih (plain_object.mp whole))
  | array _ ih => exact fun whole => plain_array.mpr (ih (plain_array.mp whole))
  | member key _ _ here later =>
    intro whole
    obtain ⟨name, inside, behind⟩ := plain_member.mp whole
    exact plain_member.mpr ⟨name, here inside, later behind⟩
  | swapMembers first second value another rest =>
    simp only [plain_member]
    rintro ⟨firstName, inside, secondName, insideOther, behind⟩
    exact ⟨secondName, insideOther, firstName, inside, behind⟩
  | item _ _ here later =>
    intro whole
    obtain ⟨inside, behind⟩ := plain_item.mp whole
    exact plain_item.mpr ⟨here inside, later behind⟩
  | swapItems value another rest =>
    simp only [plain_item]
    rintro ⟨inside, insideOther, behind⟩
    exact ⟨insideOther, inside, behind⟩

theorem ordinary (rearranged : Rearranged document other) (ordinary : document.Ordinary) :
    other.Ordinary where
  keys key member := ordinary.keys key (rearranged.keys_perm.mem_iff.mpr member)
  plain := rearranged.plain ordinary.plain
  distinct := rearranged.keys_perm.nodup_iff.mp ordinary.distinct

/-! What a key has, where that has no parts of its own. -/

theorem leaf_eq (rearranged : Rearranged document other) (leaf : document.IsLeaf) :
    document = other := by
  induction rearranged with
  | refl => rfl
  | trans _ _ before behind =>
    have same := before leaf
    exact same.trans (behind (same ▸ leaf))
  | object | array | member | swapMembers | item | swapItems => cases leaf

theorem has_leaf {found : Json .value} (rearranged : Rearranged document other)
    (leaf : found.IsLeaf) : document.Has key found → other.Has key found := by
  induction rearranged with
  | refl => exact id
  | trans _ _ before behind => exact behind ∘ before
  | object _ ih =>
    rintro (_ | _ | _ | has)
    exact .object (ih has)
  | array _ ih =>
    rintro (_ | _ | _ | _ | has)
    exact .array (ih has)
  -- Only here may a value itself be rearranged, and a leaf has nothing to rearrange.
  | member key here _ inside behind =>
    intro has
    cases has with
    | here => exact here.leaf_eq leaf ▸ .here
    | inValue has => exact .inValue (inside has)
    | later has => exact .later (behind has)
  | swapMembers first second value another rest =>
    intro has
    cases has with
    | here => exact .later .here
    | inValue has => exact .later (.inValue has)
    | later has =>
      cases has with
      | here => exact .here
      | inValue has => exact .inValue has
      | later has => exact .later (.later has)
  | item _ _ inside behind =>
    intro has
    cases has with
    | inItem has => exact .inItem (inside has)
    | laterItem has => exact .laterItem (behind has)
  | swapItems value another rest =>
    intro has
    cases has with
    | inItem has => exact .laterItem (.inItem has)
    | laterItem has =>
      cases has with
      | inItem has => exact .inItem has
      | laterItem has => exact .laterItem (.laterItem has)

theorem has_leaf_iff {found : Json .value} (rearranged : Rearranged document other)
    (leaf : found.IsLeaf) : document.Has key found ↔ other.Has key found :=
  ⟨rearranged.has_leaf leaf, rearranged.symm.has_leaf leaf⟩

end Rearranged
end ServiceProbe.Json
