import Mathlib.Data.List.Infix
import ReactiveResource.Gateway.Http
import ReactiveResource.Proofs.Text.Order

/-!
# Excerpts of bodies

A log entry shows of the body of a response what is visible in its first octets, and says how many
octets there are if it does not show them all. The first octets are those of whole characters. What
comes after them leaves no trace in the log.

* `IsVisible`, `visible`: the characters that may be shown, and those of a text;
* `LongestBeginning`, `longestBeginning_octetPrefix`: where a text is cut;
* `AlikeWithin`, `logExcerpt_of_alike`: texts that are not told apart by what is shown of them;
* `excerpt_of_body`: what is shown of a body, and what is not.
-/

namespace ReactiveResource

namespace Gateway

/-! ### Characters -/

/-- A character is a space or a visible ASCII character. -/
def IsVisible (c : Char) : Prop := c = ' ' ∨ 0x21 ≤ c.toNat ∧ c.toNat ≤ 0x7E

instance : DecidablePred IsVisible := fun _ => inferInstanceAs (Decidable (_ ∨ _))

/-- A text without the characters that are not visible. -/
def visible (s : String) : String := String.ofList (s.toList.filter fun c => IsVisible c)

theorem isLoggable_eq (c : Char) : isLoggable c = decide (IsVisible c) := by
  have space : c = ' ' ↔ c.toNat = 0x20 := (Char.toNat_inj (c := c) (d := ' ')).symm
  rw [Bool.eq_iff_iff, isLoggable, Bool.and_eq_true, decide_eq_true_eq, decide_eq_true_eq,
    decide_eq_true_eq, IsVisible, space]
  omega

theorem filter_isLoggable (cs : List Char) :
    cs.filter isLoggable = cs.filter fun c => IsVisible c :=
  List.filter_congr fun c _ => isLoggable_eq c

/-! ### Where a text is cut -/

variable {room : Nat} {cs part : List Char}

theorem octetPrefix_isPrefix (room : Nat) (cs : List Char) : octetPrefix room cs <+: cs := by
  induction cs generalizing room with
  | nil => exact List.prefix_rfl
  | cons c cs ih =>
    rw [octetPrefix]
    split
    · exact List.cons_prefix_cons.2 ⟨rfl, ih _⟩
    · exact List.nil_prefix

theorem octetPrefix_fits (room : Nat) (cs : List Char) :
    ((octetPrefix room cs).flatMap String.utf8EncodeChar).length ≤ room := by
  induction cs generalizing room with
  | nil => exact Nat.zero_le room
  | cons c cs ih =>
    rw [octetPrefix]
    split
    · next fits =>
      rw [List.flatMap_cons, List.length_append, String.length_utf8EncodeChar]
      have rest := ih (room - c.utf8Size)
      omega
    · exact Nat.zero_le room

/-- Whatever a text begins with and fits is part of the beginning that is taken. -/
theorem prefix_octetPrefix (begins : part <+: cs)
    (fits : (part.flatMap String.utf8EncodeChar).length ≤ room) :
    part <+: octetPrefix room cs := by
  induction cs generalizing part room with
  | nil => exact begins
  | cons c cs ih =>
    cases part with
    | nil => exact List.nil_prefix
    | cons d part =>
      obtain ⟨rfl, goesOn⟩ := List.cons_prefix_cons.1 begins
      rw [List.flatMap_cons, List.length_append, String.length_utf8EncodeChar] at fits
      rw [octetPrefix, if_pos (by omega)]
      exact List.cons_prefix_cons.2 ⟨rfl, ih goesOn (by omega)⟩

/-- A text begins with whole characters that fit, and no later place between characters fits. -/
structure LongestBeginning (room : Nat) (s part : String) : Prop where
  begins : ∃ rest, s = part ++ rest
  fits : part.utf8ByteSize ≤ room
  longest : ∀ place : String.Pos.Raw, place.IsValid s → place.byteIdx ≤ room →
    place.byteIdx ≤ part.utf8ByteSize

theorem utf8ByteSize_eq (s : String) :
    s.utf8ByteSize = (s.toList.flatMap String.utf8EncodeChar).length := by
  rw [← Text.octets_eq_flatMap, Text.length_octets]

/-- A text is cut at the last place between characters that fits. -/
theorem longestBeginning_octetPrefix (room : Nat) (s : String) :
    LongestBeginning room s (String.ofList (octetPrefix room s.toList)) where
  begins := by
    obtain ⟨rest, whole⟩ := octetPrefix_isPrefix room s.toList
    exact ⟨String.ofList rest, by rw [← String.ofList_append, whole, String.ofList_toList]⟩
  fits := by
    rw [utf8ByteSize_eq, String.toList_ofList]
    exact octetPrefix_fits room s.toList
  longest := by
    intro place valid fits
    obtain ⟨before, after, rfl, rfl⟩ := String.Pos.Raw.isValid_iff_exists_append.1 valid
    rw [String.byteIdx_rawEndPos, utf8ByteSize_eq] at fits ⊢
    rw [utf8ByteSize_eq, String.toList_ofList]
    have begins : before.toList <+: (before ++ after).toList := by
      rw [String.toList_append]
      exact List.prefix_append ..
    exact (List.IsPrefix.flatMap (prefix_octetPrefix begins fits) _).length_le

/-! ### Texts that are not told apart -/

/-- Two texts have equally many octets, and those that fit into a room are the same. -/
structure AlikeWithin (room : Nat) (s t : String) : Prop where
  size : s.utf8ByteSize = t.utf8ByteSize
  octets : (Text.octets s).take room = (Text.octets t).take room

theorem AlikeWithin.symm {s t : String} (alike : AlikeWithin room s t) : AlikeWithin room t s :=
  ⟨alike.size.symm, alike.octets.symm⟩

/-- What is taken of a text is there in the other as well. -/
theorem AlikeWithin.octetPrefix_isPrefix {s t : String} (alike : AlikeWithin room s t) :
    octetPrefix room s.toList <+: octetPrefix room t.toList := by
  have fits := octetPrefix_fits room s.toList
  refine prefix_octetPrefix (Text.prefix_of_octets ?_) fits
  have inside : (octetPrefix room s.toList).flatMap String.utf8EncodeChar <+: Text.octets s := by
    rw [Text.octets_eq_flatMap]
    exact List.IsPrefix.flatMap (Gateway.octetPrefix_isPrefix room s.toList) _
  have taken := List.prefix_take_iff.2 ⟨inside, fits⟩
  rw [alike.octets] at taken
  rw [← Text.octets_eq_flatMap]
  exact (List.prefix_take_iff.1 taken).1

theorem AlikeWithin.octetPrefix_eq {s t : String} (alike : AlikeWithin room s t) :
    octetPrefix room s.toList = octetPrefix room t.toList :=
  alike.octetPrefix_isPrefix.eq_of_length_le alike.symm.octetPrefix_isPrefix.length_le

/-- Texts that have no more octets than fit are alike only if they are the same. -/
theorem AlikeWithin.eq {s t : String} (alike : AlikeWithin room s t)
    (short : s.utf8ByteSize ≤ room) : s = t := by
  have whole {u : String} (fits : u.utf8ByteSize ≤ room) :
      (Text.octets u).take room = u.toList.flatMap String.utf8EncodeChar := by
    rw [List.take_of_length_le (by rwa [Text.length_octets]), Text.octets_eq_flatMap]
  have same := alike.octets
  rw [whole short, whole (alike.size ▸ short)] at same
  have forth := Text.prefix_of_octets (same ▸ List.prefix_rfl :
    s.toList.flatMap String.utf8EncodeChar <+: t.toList.flatMap String.utf8EncodeChar)
  have back := Text.prefix_of_octets (same ▸ List.prefix_rfl :
    t.toList.flatMap String.utf8EncodeChar <+: s.toList.flatMap String.utf8EncodeChar)
  exact String.toList_inj.1 (forth.eq_of_length_le back.length_le)

/-! ### Excerpts -/

/-- What is said of a body that is not shown in full. -/
def cutNote (size : Nat) : String := "... [truncated, " ++ toString size ++ " bytes total]"

theorem cutNote_eq (size : Nat) :
    cutNote size = "... [truncated, " ++ toString size ++ " bytes total]" := by
  delta cutNote
  rfl

theorem isVisible_of_isDigit {c : Char} (digit : c.isDigit = true) : IsVisible c := by
  simp only [Char.isDigit, Bool.and_eq_true, decide_eq_true_eq, ge_iff_le,
    UInt32.le_iff_toNat_le] at digit
  change 48 ≤ c.toNat ∧ c.toNat ≤ 57 at digit
  exact .inr (by omega)

/-- The note itself is visible. -/
theorem isVisible_of_mem_cutNote {size : Nat} {c : Char} (mem : c ∈ (cutNote size).toList) :
    IsVisible c := by
  have front := List.all_eq_true.1
    (by decide : ("... [truncated, ".toList.all fun c => IsVisible c) = true)
  have back := List.all_eq_true.1
    (by decide : (" bytes total]".toList.all fun c => IsVisible c) = true)
  rw [cutNote_eq, String.toList_append, String.toList_append, List.mem_append,
    List.mem_append] at mem
  rcases mem with (mem | mem) | mem
  · exact of_decide_eq_true (front c mem)
  · rw [Nat.toString_eq_repr, Nat.repr_eq_ofList_toDigits, String.toList_ofList] at mem
    exact isVisible_of_isDigit (Nat.isDigit_of_mem_toDigits (by decide) (by decide) mem)
  · exact of_decide_eq_true (back c mem)

theorem logExcerpt_of_short {body : String} (short : body.utf8ByteSize ≤ maxExcerpt) :
    logExcerpt body = visible body := by
  rw [logExcerpt, if_neg (by omega), filter_isLoggable, visible]

theorem logExcerpt_of_long {body : String} (long : maxExcerpt < body.utf8ByteSize) :
    logExcerpt body = visible (String.ofList (octetPrefix maxExcerpt body.toList))
      ++ cutNote body.utf8ByteSize := by
  have kept : (cutNote body.utf8ByteSize).toList.filter (fun c => IsVisible c)
      = (cutNote body.utf8ByteSize).toList :=
    List.filter_eq_self.2 fun c mem => decide_eq_true (isVisible_of_mem_cutNote mem)
  rw [logExcerpt, if_pos long, filter_isLoggable, List.filter_append, ← cutNote_eq, kept,
    String.ofList_append, visible, String.toList_ofList, String.ofList_toList]

/-- What is shown of a body is visible. -/
theorem isVisible_of_mem_logExcerpt {body : String} {c : Char}
    (mem : c ∈ (logExcerpt body).toList) : IsVisible c := by
  rw [logExcerpt, String.toList_ofList, filter_isLoggable] at mem
  exact of_decide_eq_true (List.mem_filter.1 mem).2

/-- Bodies that are alike as far as they may be shown have the same excerpt. -/
theorem logExcerpt_of_alike {s t : String} (alike : AlikeWithin maxExcerpt s t) :
    logExcerpt s = logExcerpt t := by
  rcases Nat.lt_or_ge maxExcerpt s.utf8ByteSize with long | short
  · rw [logExcerpt_of_long long, logExcerpt_of_long (alike.size ▸ long), alike.octetPrefix_eq,
      alike.size]
  · rw [alike.eq short]

end Gateway

/-! ### The log -/

/-- The same comes back but for what is not shown of a body. -/
inductive Exchange.Alike : Exchange → Exchange → Prop where
  | refl (e : Exchange) : Alike e e
  | bodies (status : Nat) (complete : Bool) {octets octets' : List Nat}
      (alike : Gateway.AlikeWithin Gateway.maxExcerpt (Text.decodeLossy octets)
        (Text.decodeLossy octets')) :
      Alike (.response status octets complete) (.response status octets' complete)

namespace HttpGateway

variable {g : HttpGateway} {network network' : Network} {earlier : List Request} {method : String}
  {params : Json}

theorem log_replyOfResponse {octets octets' : List Nat} (status : Nat) (complete : Bool)
    (alike : Gateway.AlikeWithin Gateway.maxExcerpt (Text.decodeLossy octets)
      (Text.decodeLossy octets')) :
    (replyOfResponse method status octets complete).2
      = (replyOfResponse method status octets' complete).2 := by
  simp only [replyOfResponse, Gateway.logExcerpt_of_alike alike]
  split
  · rfl
  · split <;> rfl

/-- Of what comes back for a call the log tells nothing but what is shown. -/
theorem log_of_alike
    (alike : ∀ request, (network earlier request).Alike (network' earlier request)) :
    (g.call network earlier method params).log = (g.call network' earlier method params).log := by
  rw [call, call]
  cases g.methodUrl method with
  | error _ => rfl
  | ok url =>
    dsimp only
    cases fault? url g.headers with
    | some _ => rfl
    | none =>
      dsimp only
      have back := alike { url, headers := g.headers, body := bodyOf params }
      revert back
      generalize network earlier { url, headers := g.headers, body := bodyOf params } = e
      generalize network' earlier { url, headers := g.headers, body := bodyOf params } = e'
      intro back
      cases back with
      | refl => rfl
      | bodies status complete alike =>
        exact congrArg (.debug ("POST " ++ url.print) :: ·)
          (log_replyOfResponse status complete alike)

end HttpGateway

/-- **What is shown of a body, and what is not.** An excerpt is made of visible characters. Of a
body of at most 200 octets it has all that are visible; of a longer one those of the longest
beginning of whole characters that has no more, and then the number of octets. So bodies that have
equally many octets and the same first 200 are not told apart by it, nor by the log of a call. -/
theorem Gateway.excerpt_of_body :
    (∀ body : String,
      (∀ c ∈ (logExcerpt body).toList, IsVisible c)
        ∧ (body.utf8ByteSize ≤ 200 → logExcerpt body = visible body)
        ∧ (200 < body.utf8ByteSize → ∃ part, LongestBeginning 200 body part
          ∧ logExcerpt body = visible part ++ "... [truncated, " ++ toString body.utf8ByteSize
            ++ " bytes total]"))
      ∧ (∀ body body', AlikeWithin 200 body body' → logExcerpt body = logExcerpt body')
      ∧ ∀ (g : HttpGateway) (network network' : Network) earlier method params,
        (∀ request, (network earlier request).Alike (network' earlier request)) →
        (g.call network earlier method params).log
          = (g.call network' earlier method params).log := by
  refine ⟨fun body => ⟨fun c => isVisible_of_mem_logExcerpt, logExcerpt_of_short, fun long => ?_⟩,
    fun body body' => logExcerpt_of_alike,
    fun g network network' earlier method params => HttpGateway.log_of_alike⟩
  refine ⟨_, longestBeginning_octetPrefix 200 body, ?_⟩
  rw [logExcerpt_of_long long, cutNote_eq, ← String.append_assoc, ← String.append_assoc]
  rfl

/-- Bodies of 201 octets whose last character begins with the same octet, the last one that may be
shown. -/
theorem Gateway.straddling_not_told_apart :
    let body (last : Char) : String := String.ofList (List.replicate 199 'x' ++ [last])
    AlikeWithin 200 (body 'é') (body 'è') ∧ body 'é' ≠ body 'è'
      ∧ logExcerpt (body 'é') = logExcerpt (body 'è') := by
  intro body
  have alike : AlikeWithin 200 (body 'é') (body 'è') := ⟨by decide +kernel, by decide +kernel⟩
  exact ⟨alike, by decide +kernel, excerpt_of_body.2.1 _ _ alike⟩

end ReactiveResource
