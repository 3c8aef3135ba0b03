import Rulebook.Proofs.Predicate.Texts
import Rulebook.Proofs.Url

/-!
# Checks of web addresses

What passes as an address of the web, and what it depends on. Control characters in front do not
count, though they are no blanks: so not everything that passes starts as an address does.

* `Predicate.isUrl_names_host`: what passes is an address with a host, behind control characters.
* `Predicate.isUrl_by_authority`: neither the case of the scheme nor what follows the authority
  matters, and which authorities pass.
-/

namespace Rulebook

namespace Predicate

open Url Authority

theorem isUrl_answers (s : String) : Answers (isUrl (.str s)) (isWebAddress s.toList = true) :=
  ⟨_, rfl, Iff.rfl⟩

/-- Whatever passes has no blanks and is written as an address with a host: an authority whose part
behind the user names one, and a port in range if any. It starts as an address does iff no control
characters stand in front; and with more of them in front it passes as well. -/
theorem isUrl_names_host {s : String} (h : isUrl (.str s) = .ok true) :
    (∀ c ∈ s.toList, isBlank c = false) ∧
    (∃ front scheme authority rest, IsWritten s.toList front scheme authority rest ∧
      (StartsWithScheme s.toList ↔ front = []) ∧
      ∃ info host port, IsBehindLast '@' authority info ∧ NamesHost info host port ∧
        host ≠ [] ∧ IsPort port) ∧
    ∀ more : String, (∀ c ∈ more.toList, isLeading c = true ∧ isBlank c = false) →
      isUrl (.str (more ++ s)) = .ok true := by
  have haccepted := (isUrl_answers s).passes_iff.mp h
  obtain ⟨front, scheme, authority, rest, hwritten⟩ := exists_written haccepted
  rw [hwritten.isWebAddress_eq, Bool.and_eq_true, Bool.not_eq_true'] at haccepted
  obtain ⟨hblank, hauthority⟩ := haccepted
  refine ⟨by simpa using hblank, ⟨front, scheme, authority, rest, hwritten,
    hwritten.startsWithScheme_iff, exists_host hauthority⟩, ?_⟩
  intro more hmore
  have hbehind := hwritten.behind fun c hc => (hmore c hc).1
  refine (isUrl_answers _).passes_iff.mpr ?_
  rw [String.toList_append, hbehind.isWebAddress_eq, hauthority, Bool.and_true, List.any_append,
    hblank, Bool.or_false]
  simpa using fun c hc => (hmore c hc).2

/-- A host in brackets behind a user passes, and so it does behind a control character. -/
theorem isUrl_names_host_sample :
    isUrl (.str "HTTP://a:b@[::1]:80/c") = .ok true ∧
      isUrl (.str ("\x01" ++ "HTTP://a:b@[::1]:80/c")) = .ok true := by
  have haccepted : isUrl (.str "HTTP://a:b@[::1]:80/c") = .ok true := rfl
  obtain ⟨-, -, hmore⟩ := isUrl_names_host haccepted
  exact ⟨haccepted, hmore "\x01" (List.forall_mem_cons.mpr ⟨⟨rfl, rfl⟩, List.forall_mem_nil _⟩)⟩

/-- What passes need not start as an address does. -/
theorem isUrl_control :
    isUrl (.str "\x01http://example.com") = .ok true ∧
      ¬ StartsWithScheme "\x01http://example.com".toList := by
  have hopen : "example.com".toList.any endsAuthority = false := rfl
  have hwritten : IsWritten "\x01http://example.com".toList ['\x01'] "http".toList
      "example.com".toList [] :=
    { text := rfl
      front_leading := List.forall_mem_cons.mpr ⟨rfl, List.forall_mem_nil _⟩
      scheme_spelled := isWebScheme_iff.mp rfl
      authority_open := by simpa only [List.any_eq_false, Bool.not_eq_true] using hopen
      rest_ends := nofun }
  exact ⟨rfl, fun hstarts => List.cons_ne_nil _ _ (hwritten.startsWithScheme_iff.mp hstarts)⟩

/-! ## The authority decides -/

section Written

variable {s n r : String}

/-- A scheme, an authority and a rest as the text of an address. -/
theorem isWritten_append (hs : SpellsScheme s.toList)
    (hn : ∀ c ∈ n.toList, endsAuthority c = false)
    (hr : ∀ c ∈ r.toList.head?, endsAuthority c = true) :
    IsWritten (s ++ "://" ++ n ++ r).toList [] s.toList n.toList r.toList where
  text := by simp
  front_leading := List.forall_mem_nil _
  scheme_spelled := hs
  authority_open := hn
  rest_ends := hr

theorem isUrl_append (hs : SpellsScheme s.toList) (hn : ∀ c ∈ n.toList, endsAuthority c = false)
    (hr : ∀ c ∈ r.toList.head?, endsAuthority c = true)
    (hblank : ∀ c ∈ r.toList, isBlank c = false) :
    isUrl (.str (s ++ "://" ++ n ++ r)) = .ok (!n.toList.any isBlank && accepts n.toList) := by
  have hwritten := isWritten_append hs hn hr
  have hrest : r.toList.any isBlank = false := by simpa using hblank
  show Except.ok (isWebAddress (s ++ "://" ++ n ++ r).toList) = _
  rw [hwritten.isWebAddress_eq, hwritten.any_isBlank, hrest, List.any_nil, Bool.false_or,
    Bool.or_false]

theorem isUrl_authority (hs : SpellsScheme s.toList)
    (hn : ∀ c ∈ n.toList, endsAuthority c = false) :
    isUrl (.str (s ++ "://" ++ n)) = .ok (!n.toList.any isBlank && accepts n.toList) := by
  rw [← String.append_empty (s := s ++ "://" ++ n)]
  exact isUrl_append hs hn (by simp) (by simp)

end Written

/-- Whether an address passes is decided by its authority: the case of the scheme does not matter,
nor what follows the authority, as long as it has no blanks. An authority in ASCII text, without
blanks and brackets, passes iff behind the user a host stands in front of the first colon, and a port
in range, or none, behind it. -/
theorem isUrl_by_authority :
    (∀ s₁ s₂ n r : String, SpellsScheme s₁.toList → SpellsScheme s₂.toList →
      (∀ c ∈ n.toList, endsAuthority c = false) → (∀ c ∈ r.toList.head?, endsAuthority c = true) →
      (∀ c ∈ r.toList, isBlank c = false) →
      isUrl (.str (s₁ ++ "://" ++ n ++ r)) = isUrl (.str (s₂ ++ "://" ++ n))) ∧
    ∀ (s n : String) (info : List Char), SpellsScheme s.toList →
      (∀ c ∈ n.toList, endsAuthority c = false) →
      (∀ c ∈ n.toList, c.toNat < 128 ∧ isBlank c = false ∧ c ≠ '[' ∧ c ≠ ']') →
      IsBehindLast '@' n.toList info →
      Answers (isUrl (.str (s ++ "://" ++ n)))
        (∃ host tail port, info = host ++ tail ∧ ':' ∉ host ∧ IsPortTail tail port ∧ host ≠ [] ∧
          IsPort port) := by
  constructor
  · intro s₁ s₂ n r hs₁ hs₂ hn hr hblank
    rw [isUrl_append hs₁ hn hr hblank, isUrl_authority hs₂ hn]
  · intro s n info hs hn hplain hinfo
    have hblank : n.toList.any isBlank = false := by simpa using fun c hc => (hplain c hc).2.1
    refine ⟨_, isUrl_authority hs hn, ?_⟩
    rw [hblank, Bool.not_false, Bool.true_and,
      accepts_ascii_iff (fun c hc => (hplain c hc).1) fun c hc => (hplain c hc).2.2, hostInfo,
      hinfo.afterLast_eq]

/-- Colons, at signs and slashes behind the authority do not matter; in it, the last at sign and the
first colon behind it do. -/
theorem isUrl_by_authority_sample :
    isUrl (.str ("http" ++ "://" ++ "a:b@c.es:80" ++ "?d@e://:f")) =
        isUrl (.str ("HTTPS" ++ "://" ++ "a:b@c.es:80")) ∧
      IsBehindLast '@' "a:b@c.es:80".toList "c.es:80".toList ∧
      isUrl (.str ("HTTPS" ++ "://" ++ "a:b@c.es:80")) = .ok true := by
  have hopen : "a:b@c.es:80".toList.all (!endsAuthority ·) = true := rfl
  have hplain : "a:b@c.es:80".toList.all (fun c =>
      decide (c.toNat < 128) && (!isBlank c && (c != '[' && c != ']'))) = true := rfl
  have hrest : "?d@e://:f".toList.all (!isBlank ·) = true := rfl
  simp only [List.all_eq_true, Bool.and_eq_true, Bool.not_eq_true', decide_eq_true_eq,
    bne_iff_ne] at hopen hplain hrest
  have hinfo : IsBehindLast '@' "a:b@c.es:80".toList "c.es:80".toList :=
    ⟨by decide, .inr ⟨['a', ':', 'b'], rfl⟩⟩
  have hport : IsPort ['8', '0'] := ⟨by decide, List.all_eq_true.mp rfl, by decide⟩
  have hsmall : SpellsScheme "http".toList := isWebScheme_iff.mp rfl
  have hlarge : SpellsScheme "HTTPS".toList := isWebScheme_iff.mp rfl
  obtain ⟨hsame, hdecides⟩ := isUrl_by_authority
  refine ⟨hsame _ _ _ _ hsmall hlarge hopen ?_ hrest, hinfo, ?_⟩
  · rintro _ ⟨⟩
    rfl
  · refine (hdecides _ _ _ hlarge hopen hplain hinfo).passes_iff.mpr ?_
    exact ⟨['c', '.', 'e', 's'], [':', '8', '0'], ['8', '0'], rfl, by decide, .inr rfl,
      List.cons_ne_nil _ _, hport⟩

end Predicate

end Rulebook
