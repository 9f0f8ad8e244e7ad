import Mathlib.Data.List.Basic

/-!
# Padded lists

A list is padded when elements of one kind are put anywhere into it and every element of its own
stays, or something like it stays in its place.
-/

namespace Gemini.Data

variable {Item Other : Type}

/-- The second list is like the first, with extra items in between. -/
inductive Padded (alike : Item → Other → Prop) (extra : Other → Prop) :
    List Item → List Other → Prop
  | nil : Padded alike extra [] []
  | keep {item : Item} {other : Other} {items : List Item} {others : List Other}
      (same : alike item other) (rest : Padded alike extra items others) :
      Padded alike extra (item :: items) (other :: others)
  | pad {other : Other} {items : List Item} {others : List Other} (isExtra : extra other)
      (rest : Padded alike extra items others) : Padded alike extra items (other :: others)

namespace Padded

variable {alike : Item → Other → Prop} {extra : Other → Prop} {items back : List Item}
  {others others' : List Other}

/-- Padded lists, one after the other. -/
theorem append (first : Padded alike extra items others) (second : Padded alike extra back others') :
    Padded alike extra (items ++ back) (others ++ others') := by
  induction first with
  | nil => exact second
  | keep same _ hypothesis => exact .keep same hypothesis
  | pad isExtra _ hypothesis => exact .pad isExtra hypothesis

/-- An element may be left out when all that is like it may be put in. -/
theorem leaveOut {item : Item} (free : ∀ other, alike item other → extra other)
    (padded : Padded alike extra (items ++ item :: back) others) :
    Padded alike extra (items ++ back) others := by
  induction others generalizing items with
  | nil => cases items <;> cases padded
  | cons other others hypothesis =>
      cases items with
      | nil =>
          cases padded with
          | keep same rest => exact .pad (free other same) rest
          | pad isExtra rest => exact .pad isExtra (hypothesis rest)
      | cons first items =>
          cases padded with
          | keep same rest => exact .keep same (hypothesis rest)
          | pad isExtra rest => exact .pad isExtra (@hypothesis (first :: items) rest)

end Padded

/-- Lists whose images are padded. -/
theorem padded_of_map {Image Image' : Type} {alike : Image → Image' → Prop} {extra : Image' → Prop}
    {first : Item → Image} {second : Other → Image'} {items : List Item} {others : List Other}
    (padded : Padded alike extra (items.map first) (others.map second)) :
    Padded (fun item other => alike (first item) (second other)) (fun other => extra (second other))
      items others := by
  induction others generalizing items with
  | nil =>
      cases items with
      | nil => exact .nil
      | cons item items => cases padded
  | cons other others hypothesis =>
      cases items with
      | nil =>
          cases padded with
          | pad isExtra rest => exact .pad isExtra (@hypothesis [] rest)
      | cons item items =>
          cases padded with
          | keep same rest => exact .keep same (hypothesis rest)
          | pad isExtra rest => exact .pad isExtra (@hypothesis (item :: items) rest)

/-- The elements of two padded lists may be compared more loosely. -/
theorem Padded.loosen {alike alike' : Item → Other → Prop} {extra extra' : Other → Prop}
    {items : List Item} {others : List Other} (padded : Padded alike extra items others)
    (weaker : ∀ item ∈ items, ∀ other ∈ others, alike item other → alike' item other)
    (wider : ∀ other ∈ others, extra other → extra' other) : Padded alike' extra' items others := by
  induction padded with
  | nil => exact .nil
  | keep same _ hypothesis =>
      refine .keep (weaker _ List.mem_cons_self _ List.mem_cons_self same) (hypothesis ?_ ?_)
      · exact fun item member other isOther =>
          weaker item (List.mem_cons_of_mem _ member) other (List.mem_cons_of_mem _ isOther)
      · exact fun other member => wider other (List.mem_cons_of_mem _ member)
  | pad isExtra _ hypothesis =>
      refine .pad (wider _ List.mem_cons_self isExtra) (hypothesis ?_ ?_)
      · exact fun item member other isOther =>
          weaker item member other (List.mem_cons_of_mem _ isOther)
      · exact fun other member => wider other (List.mem_cons_of_mem _ member)

end Gemini.Data
