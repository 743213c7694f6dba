/-
  The texts of push notifications. A long one is cut after a number of bytes, which may be inside a
  character; most characters of a Chinese text take three bytes. `dump` throws for such a body, and
  JPush gets a document that is not UTF-8.
-/
import ChatApp.Lib.Utf8

namespace ChatApp.Push

open ChatApp.Lib

def dots : List UInt8 := utf8 ['.', '.', '.']

/-- `if (text.length() > limit) text = text.substr(0, cut) + "..."` -/
def shorten (limit cut : Nat) (text : List UInt8) : List UInt8 :=
  if limit < text.length then text.take cut ++ dots else text

/-- The functions that shorten a message for a notification. -/
inductive Notifier
  /-- of the gateway, for both managers -/
  | handlePrivateMessage
  | handleGroupMessage
  /-- of `FcmManager` -/
  | fcmMessageNotification
  | fcmGroupMessageNotification
  /-- of `JPushManager` -/
  | jpushMessageNotification
  | jpushGroupMessageNotification

namespace Notifier

/-- What is shortened. -/
def text (senderName content : List Char) : Notifier → List Char
  | jpushGroupMessageNotification => senderName ++ [':', ' '] ++ content
  | _ => content

/-- A text up to this length stays. -/
def limit : Notifier → Nat
  | fcmMessageNotification | fcmGroupMessageNotification => 100
  | _ => 50

/-- What is kept of a longer one. -/
def cut : Notifier → Nat
  | fcmMessageNotification | fcmGroupMessageNotification => 97
  | _ => 50

/-- The body that is passed on. -/
def body (n : Notifier) (senderName content : List UInt8) : List UInt8 :=
  match n with
  | handlePrivateMessage | handleGroupMessage | jpushMessageNotification => shorten 50 50 content
  | fcmMessageNotification | fcmGroupMessageNotification => shorten 100 97 content
  | jpushGroupMessageNotification => shorten 50 50 (senderName ++ utf8 [':', ' '] ++ content)

end Notifier

/-- The body is UTF-8, which `dump` asks for, and has the text or whole characters of it. -/
structure Whole (text : List Char) (body : List UInt8) : Prop where
  valid : ∃ cs, body = utf8 cs
  isPrefix : body = utf8 text ∨ ∃ cs, cs <+: text ∧ body = utf8 cs ++ dots

/-- The text is not cut, or between two characters. -/
def Aligned (limit cut : Nat) (text : List Char) : Prop :=
  (utf8 text).length ≤ limit ∨ ∃ cs ∈ text.inits, (utf8 cs).length = cut

instance (limit cut : Nat) (text : List Char) : Decidable (Aligned limit cut text) :=
  inferInstanceAs (Decidable (_ ∨ ∃ cs ∈ _, _))

variable {limit cut : Nat} {text : List Char} {before : List UInt8} {n : Notifier}

/-- What stands before the dots of a text is a text. -/
theorem utf8_before_dots {cs : List Char} (h : before ++ dots = utf8 cs) :
    ∃ ds, before = utf8 ds := by
  have hdots : dots = '.'.toUInt8 :: utf8 ['.', '.'] := by decide
  rw [hdots] at h
  obtain ⟨ds, -, -, -, -, -, hds, -⟩ := Utf8.utf8_split h.symm (by decide)
  exact ⟨ds, hds.symm⟩

/-- A cut leaves a text if and only if it is between two characters. -/
theorem take_utf8_iff (h : cut ≤ (utf8 text).length) :
    (∃ cs, (utf8 text).take cut = utf8 cs) ↔ ∃ cs ∈ text.inits, (utf8 cs).length = cut := by
  constructor
  · rintro ⟨cs, hcs⟩
    have hprefix : utf8 cs <+: utf8 text := hcs ▸ List.take_prefix ..
    refine ⟨cs, (List.mem_inits _ _).2 (Utf8.utf8_isPrefix.1 hprefix), ?_⟩
    rw [← hcs, List.length_take, Nat.min_eq_left h]
  · rintro ⟨cs, hcs, hlength⟩
    obtain ⟨rest, hrest⟩ := Utf8.utf8_isPrefix.2 ((List.mem_inits _ _).1 hcs)
    exact ⟨cs, by rw [← hrest, ← hlength, List.take_left]⟩

theorem shorten_valid_iff (hcut : cut ≤ limit) :
    (∃ cs, shorten limit cut (utf8 text) = utf8 cs) ↔ Aligned limit cut text := by
  unfold shorten Aligned
  split
  next hlong =>
    rw [or_iff_right (Nat.not_le.2 hlong), ← take_utf8_iff (by omega)]
    constructor
    · rintro ⟨cs, hcs⟩
      exact utf8_before_dots hcs
    · rintro ⟨cs, hcs⟩
      exact ⟨cs ++ ['.', '.', '.'], by rw [hcs, Utf8.utf8_append]; rfl⟩
  next hshort => exact iff_of_true ⟨text, rfl⟩ (.inl (Nat.not_lt.1 hshort))

theorem shorten_whole_iff (hcut : cut ≤ limit) :
    Whole text (shorten limit cut (utf8 text)) ↔ Aligned limit cut text := by
  refine ⟨fun h => (shorten_valid_iff hcut).1 h.valid, fun h => ⟨(shorten_valid_iff hcut).2 h, ?_⟩⟩
  unfold shorten
  split
  next hlong =>
    obtain ⟨cs, hcs, hlength⟩ := h.resolve_left (Nat.not_le.2 hlong)
    have hprefix := (List.mem_inits _ _).1 hcs
    obtain ⟨rest, hrest⟩ := Utf8.utf8_isPrefix.2 hprefix
    exact .inr ⟨cs, hprefix, by rw [← hrest, ← hlength, List.take_left]⟩
  next => exact .inl rfl

theorem body_eq (senderName content : List Char) : n.body (utf8 senderName) (utf8 content) =
    shorten n.limit n.cut (utf8 (n.text senderName content)) := by
  cases n with
  | jpushGroupMessageNotification =>
    show shorten 50 50 _ = shorten 50 50 (utf8 (senderName ++ [':', ' '] ++ content))
    rw [Utf8.utf8_append, Utf8.utf8_append]
  | _ => rfl

/-- The body of a notification is valid UTF-8 and has whole characters of the text if and only if the
    text is short or the cut is between two of its characters. -/
theorem notification_whole_iff (n : Notifier) (senderName content : List Char) :
    Whole (n.text senderName content) (n.body (utf8 senderName) (utf8 content)) ↔
      Aligned n.limit n.cut (n.text senderName content) := by
  rw [body_eq]
  exact shorten_whole_iff (by cases n <;> decide)

/-- Seventeen characters of three bytes: the cut is inside the last one. -/
theorem chinese_text_broken : ¬ ∀ (n : Notifier) (senderName content : List Char),
    Whole (n.text senderName content) (n.body (utf8 senderName) (utf8 content)) := by
  intro h
  have hwhole := h .handlePrivateMessage [] (List.replicate 17 '中')
  rw [body_eq, shorten_whole_iff (by decide)] at hwhole
  revert hwhole
  decide

end ChatApp.Push
