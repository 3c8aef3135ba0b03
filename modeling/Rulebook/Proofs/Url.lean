import Mathlib
import Rulebook.Url

/-!
# Reading web addresses

How an address is written, and what reading it gives back: the scheme in any case, the authority up
to the first character that ends it, and in the authority what stands behind the user, the host and
the port. Once a text is written so, only blanks and the authority decide whether it is accepted.

* `Url.Spells`: a word in any case. `Url.IsWritten`: a text written as an address.
* `Url.IsWritten.isWebAddress_eq`, `Url.exists_written`: what is accepted.
* `Authority.NamesHost`, `Authority.IsPort`: the host and the port of an authority.
* `Authority.accepts_iff`: the authorities that are accepted.
-/

namespace Rulebook

namespace Url

/-! ## Separators -/

variable {c : Char} {cs front back : List Char}

theorem takeWhile_ne_append (h : c ∉ front) (back : List Char) :
    (front ++ back).takeWhile (· != c) = front ++ back.takeWhile (· != c) :=
  List.takeWhile_append_of_pos fun _ hd => bne_iff_ne.mpr (ne_of_mem_of_not_mem hd h)

theorem dropWhile_ne_append (h : c ∉ front) (back : List Char) :
    (front ++ back).dropWhile (· != c) = back.dropWhile (· != c) :=
  List.dropWhile_append_of_pos fun _ hd => bne_iff_ne.mpr (ne_of_mem_of_not_mem hd h)

theorem cutFirst_append (h : c ∉ front) (back : List Char) :
    cutFirst c (front ++ c :: back) = (front, back) := by
  rw [cutFirst, takeWhile_ne_append h, dropWhile_ne_append h]
  simp

theorem cutFirst_of_not_mem (h : c ∉ cs) : cutFirst c cs = (cs, []) := by
  rw [← List.append_nil cs, cutFirst, takeWhile_ne_append h, dropWhile_ne_append h]
  simp

/-- What stands behind the last `c` of a text: all of it, if there is none. -/
def IsBehindLast (c : Char) (cs tail : List Char) : Prop :=
  c ∉ tail ∧ (cs = tail ∨ ∃ front, cs = front ++ c :: tail)

theorem IsBehindLast.afterLast_eq {tail : List Char} (h : IsBehindLast c cs tail) :
    afterLast c cs = tail := by
  obtain ⟨hc, rfl | ⟨front, rfl⟩⟩ := h
  · have hc : c ∉ cs.reverse := mt List.mem_reverse.mp hc
    rw [afterLast, ← List.append_nil cs.reverse, takeWhile_ne_append hc]
    simp
  · have hc : c ∉ tail.reverse := mt List.mem_reverse.mp hc
    rw [afterLast, List.reverse_append, List.reverse_cons, List.append_assoc,
      takeWhile_ne_append hc]
    simp

theorem isBehindLast_afterLast (c : Char) (cs : List Char) :
    IsBehindLast c cs (afterLast c cs) := by
  by_cases hc : c ∈ cs
  · obtain ⟨tail, front, hsplit, htail⟩ := List.eq_append_cons_of_mem (List.mem_reverse.mpr hc)
    have hbehind : IsBehindLast c cs tail.reverse := by
      refine ⟨mt List.mem_reverse.mp htail, .inr ⟨front.reverse, ?_⟩⟩
      rw [← cs.reverse_reverse, hsplit]
      simp
    rwa [hbehind.afterLast_eq]
  · have hbehind : IsBehindLast c cs cs := ⟨hc, .inl rfl⟩
    rwa [hbehind.afterLast_eq]

theorem IsBehindLast.mem {d : Char} {tail : List Char} (h : IsBehindLast c cs tail)
    (hd : d ∈ tail) : d ∈ cs := by
  obtain ⟨-, rfl | ⟨front, rfl⟩⟩ := h
  · exact hd
  · exact List.mem_append_right front (List.mem_cons_of_mem c hd)

/-! ## The scheme -/

/-- Letters spell a word of small letters, each in either case. -/
def Spells (word cs : List Char) : Prop := List.Forall₂ (fun l c => c = l ∨ c = l.toUpper) word cs

/-- Letters spell a scheme of the web. -/
def SpellsScheme (cs : List Char) : Prop :=
  Spells ['h', 't', 't', 'p'] cs ∨ Spells ['h', 't', 't', 'p', 's'] cs

theorem toLower_eq_iff {l : Char} (hl : l.isLower = true) :
    c.toLower = l ↔ c = l ∨ c = l.toUpper := by
  constructor
  · rintro rfl
    by_cases hc : c.isUpper = true
    · rw [Char.toUpper_toLower_eq_toUpper, Char.toUpper_eq_of_not_isLower (Char.not_isLower_of_isUpper hc)]
      exact .inr rfl
    · exact .inl (Char.toLower_eq_of_not_isUpper hc).symm
  · have hlower : l.toLower = l := Char.toLower_eq_of_not_isUpper (Char.not_isUpper_of_isLower hl)
    rintro (rfl | rfl)
    · exact hlower
    · rw [Char.toLower_toUpper_eq_toLower, hlower]

theorem map_toLower_eq_iff {word : List Char} (hword : word.all Char.isLower = true) :
    cs.map Char.toLower = word ↔ Spells word cs := by
  induction word generalizing cs with
  | nil => rw [List.map_eq_nil_iff, Spells, List.forall₂_nil_left_iff]
  | cons l word ih =>
    rw [List.all_cons, Bool.and_eq_true] at hword
    cases cs with
    | nil => exact iff_of_false nofun nofun
    | cons c cs =>
      rw [List.map_cons, List.cons.injEq, toLower_eq_iff hword.1, ih hword.2]
      simp only [Spells, List.forall₂_cons]

theorem isWebScheme_iff : isWebScheme cs = true ↔ SpellsScheme cs := by
  rw [isWebScheme, Bool.or_eq_true, beq_iff_eq, beq_iff_eq, map_toLower_eq_iff rfl,
    map_toLower_eq_iff rfl]
  exact Iff.rfl

theorem Spells.all {word : List Char} (h : Spells word cs) {test : Char → Bool}
    (hword : word.all (fun l => test l && test l.toUpper) = true) : ∀ c ∈ cs, test c = true := by
  induction h with
  | nil => exact List.forall_mem_nil _
  | cons hc _ ih =>
    rw [List.all_cons, Bool.and_eq_true, Bool.and_eq_true] at hword
    refine List.forall_mem_cons.mpr ⟨?_, ih hword.2⟩
    rcases hc with rfl | rfl
    · exact hword.1.1
    · exact hword.1.2

/-- What the letters of the longer scheme pass in both cases, those of every scheme pass. -/
theorem SpellsScheme.all (h : SpellsScheme cs) {test : Char → Bool}
    (htest : ['h', 't', 't', 'p', 's'].all (fun l => test l && test l.toUpper) = true) :
    ∀ c ∈ cs, test c = true := by
  rcases h with h | h
  · refine h.all (List.all_eq_true.mpr fun l hl => List.all_eq_true.mp htest l ?_)
    exact List.mem_append_left ['s'] hl
  · exact h.all htest

/-! ## Addresses as they are written -/

/-- A text is written as an address: characters in front that do not count, a scheme of the web, and
behind it the authority and the rest, which starts with a character that ends the authority. -/
structure IsWritten (cs front scheme authority rest : List Char) : Prop where
  text : cs = front ++ (scheme ++ ':' :: '/' :: '/' :: (authority ++ rest))
  front_leading : ∀ c ∈ front, isLeading c = true
  scheme_spelled : SpellsScheme scheme
  authority_open : ∀ c ∈ authority, endsAuthority c = false
  rest_ends : ∀ c ∈ rest.head?, endsAuthority c = true

theorem takeWhile_authority {authority rest : List Char}
    (hopen : ∀ c ∈ authority, endsAuthority c = false)
    (hends : ∀ c ∈ rest.head?, endsAuthority c = true) :
    (authority ++ rest).takeWhile (fun c => !endsAuthority c) = authority := by
  rw [List.takeWhile_append_of_pos fun c hc => by rw [hopen c hc]; rfl]
  cases rest with
  | nil => simp
  | cons c rest => simp [hends c rfl]

/-- Of a text that is written as an address, the blanks and the authority decide whether it is
accepted. -/
theorem IsWritten.isWebAddress_eq {cs front scheme authority rest : List Char}
    (h : IsWritten cs front scheme authority rest) :
    isWebAddress cs = (!cs.any isBlank && Authority.accepts authority) := by
  have hnotLeading : ∀ c ∈ scheme, (!isLeading c) = true := h.scheme_spelled.all rfl
  have hnoColon : ∀ c ∈ scheme, (c != ':') = true := h.scheme_spelled.all rfl
  have hdrop : cs.dropWhile isLeading = scheme ++ ':' :: '/' :: '/' :: (authority ++ rest) := by
    rw [h.text, List.dropWhile_append_of_pos h.front_leading]
    cases scheme with
    | nil => rfl
    | cons c scheme =>
      refine List.dropWhile_cons_of_neg ?_
      rw [Bool.not_eq_true, ← Bool.not_eq_true']
      exact hnotLeading c List.mem_cons_self
  have hcut : cutFirst ':' (cs.dropWhile isLeading) =
      (scheme, '/' :: '/' :: (authority ++ rest)) := by
    rw [hdrop]
    exact cutFirst_append (fun hmem => bne_iff_ne.mp (hnoColon _ hmem) rfl) _
  rw [isWebAddress, hcut]
  simp only
  rw [isWebScheme_iff.mpr h.scheme_spelled, Bool.and_true,
    takeWhile_authority h.authority_open h.rest_ends]

/-- Every text that is accepted is written as an address. -/
theorem exists_written {cs : List Char} (h : isWebAddress cs = true) :
    ∃ front scheme authority rest, IsWritten cs front scheme authority rest := by
  have hsplit : cs = cs.takeWhile isLeading ++ cs.dropWhile isLeading :=
    List.takeWhile_append_dropWhile.symm
  by_cases hcolon : ':' ∈ cs.dropWhile isLeading
  · obtain ⟨scheme, tail, hbody, hscheme⟩ := List.eq_append_cons_of_mem hcolon
    rw [isWebAddress, hbody, cutFirst_append hscheme] at h
    simp only [Bool.and_eq_true] at h
    obtain ⟨⟨-, hweb⟩, htail⟩ := h
    split at htail
    · rename_i after
      have hafter : after = after.takeWhile (fun c => !endsAuthority c) ++
          after.dropWhile (fun c => !endsAuthority c) := List.takeWhile_append_dropWhile.symm
      refine ⟨cs.takeWhile isLeading, scheme, after.takeWhile fun c => !endsAuthority c,
        after.dropWhile fun c => !endsAuthority c, ?_, ?_, isWebScheme_iff.mp hweb, ?_, ?_⟩
      · rw [← hafter, ← hbody]
        exact hsplit
      · exact fun c hc => List.mem_takeWhile_imp hc
      · exact fun c hc => by simpa using List.mem_takeWhile_imp hc
      · intro c hc
        have hhead := List.head?_dropWhile_not (fun c => !endsAuthority c) after
        rw [Option.mem_def.mp hc] at hhead
        simpa using hhead
    · cases htail
  · rw [isWebAddress, cutFirst_of_not_mem hcolon] at h
    simp at h

/-- A text starts as an address of the web does. -/
def StartsWithScheme (cs : List Char) : Prop :=
  ∃ scheme tail, SpellsScheme scheme ∧ cs = scheme ++ ':' :: '/' :: '/' :: tail

namespace IsWritten

variable {scheme authority rest : List Char}

theorem startsWithScheme_iff (h : IsWritten cs front scheme authority rest) :
    StartsWithScheme cs ↔ front = [] := by
  constructor
  · rintro ⟨name, tail, hname, hcs⟩
    have hnotLeading : ∀ c ∈ name, (!isLeading c) = true := hname.all rfl
    cases front with
    | nil => rfl
    | cons c front =>
      -- What stands in front is neither a letter nor the colon behind the letters.
      have hc := h.front_leading c List.mem_cons_self
      have htext := h.text.symm.trans hcs
      cases name with
      | nil =>
        rw [(List.cons.inj htext).1] at hc
        cases hc
      | cons d name =>
        have hd := hnotLeading d List.mem_cons_self
        rw [← (List.cons.inj htext).1, hc] at hd
        cases hd
  · rintro rfl
    exact ⟨scheme, authority ++ rest, h.scheme_spelled, h.text⟩

theorem any_isBlank (h : IsWritten cs front scheme authority rest) :
    cs.any isBlank = (front.any isBlank || (authority.any isBlank || rest.any isBlank)) := by
  have hletters : ∀ c ∈ scheme, (!isBlank c) = true := h.scheme_spelled.all rfl
  have hscheme : scheme.any isBlank = false := by simpa using hletters
  have hmark : [':', '/', '/'].any isBlank = false := rfl
  have htext : cs = front ++ (scheme ++ ([':', '/', '/'] ++ (authority ++ rest))) := h.text
  rw [htext]
  simp only [List.any_append, hscheme, hmark, Bool.false_or]

/-- Characters in front that do not count may be added. -/
theorem behind (h : IsWritten cs front scheme authority rest) {more : List Char}
    (hmore : ∀ c ∈ more, isLeading c = true) :
    IsWritten (more ++ cs) (more ++ front) scheme authority rest where
  text := by rw [h.text, List.append_assoc]
  front_leading := List.forall_mem_append.mpr ⟨hmore, h.front_leading⟩
  scheme_spelled := h.scheme_spelled
  authority_open := h.authority_open
  rest_ends := h.rest_ends

end IsWritten

end Url

namespace Authority

open Url

/-! ## Host and port -/

/-- What follows a host: nothing, or a colon and the port. -/
def IsPortTail (tail port : List Char) : Prop := tail = [] ∧ port = [] ∨ tail = ':' :: port

/-- The host and the port that stand behind the user. -/
inductive NamesHost : List Char → List Char → List Char → Prop where
  /-- A host without a colon. -/
  | plain {host tail port : List Char} : ':' ∉ host → '[' ∉ host ++ tail → IsPortTail tail port →
      NamesHost (host ++ tail) host port
  | bracketed {host tail port : List Char} : ']' ∉ host → IsPortTail tail port →
      NamesHost ('[' :: (host ++ ']' :: tail)) host port
  /-- Where the closing bracket stands in front of the user's at sign, all that is left is host. -/
  | unclosed {host : List Char} : ']' ∉ host → NamesHost ('[' :: host) host []

/-- A port is made of digits, not too many, and in range. No digits are no port. -/
structure IsPort (port : List Char) : Prop where
  length_le : port.length ≤ 4300
  digits : ∀ c ∈ port, c.isDigit = true
  le_max : Nat.ofDigitChars 10 port 0 ≤ 65535

variable {n info host tail port : List Char}

theorem IsPortTail.cutFirst_eq (h : IsPortTail tail port) (hhost : ':' ∉ host) :
    cutFirst ':' (host ++ tail) = (host, port) := by
  rcases h with ⟨rfl, rfl⟩ | rfl
  · rw [List.append_nil]
    exact cutFirst_of_not_mem hhost
  · exact cutFirst_append hhost port

theorem NamesHost.hostAndPort_eq (h : NamesHost info host port) :
    hostAndPort info = (host, port) := by
  have hnone : '[' ∉ ([] : List Char) := List.not_mem_nil
  have hopen : ∀ inner, cutFirst '[' ('[' :: inner) = ([], inner) := cutFirst_append hnone
  cases h with
  | plain hcolon hbracket htail =>
    rw [hostAndPort, if_neg (by simpa using hbracket)]
    exact htail.cutFirst_eq hcolon
  | @bracketed _ tail _ hclose htail =>
    have hport : cutFirst ':' tail = ([], port) := htail.cutFirst_eq List.not_mem_nil
    rw [hostAndPort, if_pos (by simp), hopen]
    simp only
    rw [cutFirst_append hclose]
    simp only
    rw [hport]
  | unclosed hclose =>
    rw [hostAndPort, if_pos (by simp), hopen]
    simp only
    rw [cutFirst_of_not_mem hclose]
    rfl

/-- A text is a host up to the first colon, and what follows it. -/
theorem exists_portTail (info : List Char) :
    ∃ host tail port, info = host ++ tail ∧ ':' ∉ host ∧ IsPortTail tail port := by
  by_cases hcolon : ':' ∈ info
  · obtain ⟨host, port, rfl, hhost⟩ := List.eq_append_cons_of_mem hcolon
    exact ⟨host, ':' :: port, port, rfl, hhost, .inr rfl⟩
  · exact ⟨info, [], [], (List.append_nil info).symm, hcolon, .inl ⟨rfl, rfl⟩⟩

/-- Behind an opening bracket a host is named if nothing but a port follows the closing one. -/
theorem exists_names_in_brackets {inner : List Char}
    (h : (cutFirst ']' inner).2 = [] ∨ (cutFirst ']' inner).2.head? = some ':') :
    ∃ host port, NamesHost ('[' :: inner) host port := by
  by_cases hclosed : ']' ∈ inner
  · obtain ⟨host, tail, rfl, hhost⟩ := List.eq_append_cons_of_mem hclosed
    rw [cutFirst_append hhost] at h
    cases tail with
    | nil => exact ⟨host, [], .bracketed hhost (.inl ⟨rfl, rfl⟩)⟩
    | cons c port =>
      have hc : c = ':' := by simpa using h
      exact ⟨host, port, .bracketed hhost (.inr (congrArg (· :: port) hc))⟩
  · exact ⟨inner, [], .unclosed hclosed⟩

/-- Where brackets fit, what stands behind the user names a host. -/
theorem exists_names (h : bracketsFit n = true) : ∃ host port, NamesHost (hostInfo n) host port := by
  by_cases hbracket : '[' ∈ hostInfo n
  · have hn : '[' ∈ n := (isBehindLast_afterLast '@' n).mem hbracket
    obtain ⟨before, inner, hinfo, hbefore⟩ := List.eq_append_cons_of_mem hbracket
    rw [bracketsFit, if_pos (by simpa using hn), Bool.and_eq_true] at h
    obtain ⟨-, h⟩ := h
    rw [if_pos (by simpa using hbracket), hinfo, cutFirst_append hbefore] at h
    simp only [Bool.and_eq_true, Bool.or_eq_true, List.isEmpty_iff, beq_iff_eq] at h
    obtain ⟨⟨hempty, hrest⟩, -⟩ := h
    rw [hinfo, hempty]
    exact exists_names_in_brackets hrest
  · obtain ⟨host, tail, port, hinfo, hhost, htail⟩ := exists_portTail (hostInfo n)
    rw [hinfo] at hbracket ⊢
    exact ⟨host, port, .plain hhost hbracket htail⟩

theorem isAsciiDigit_eq (c : Char) : isAsciiDigit c = c.isDigit := by
  simp [isAsciiDigit, Char.isDigit, Char.le_def]

theorem portFits_iff : portFits port = true ↔ IsPort port := by
  have hvalue : natOfDigits port = Nat.ofDigitChars 10 port 0 := rfl
  simp only [portFits, Bool.or_eq_true, Bool.and_eq_true, List.isEmpty_iff, List.all_eq_true,
    isAsciiDigit_eq, decide_eq_true_eq, hvalue]
  constructor
  · rintro (rfl | ⟨⟨hdigits, hlength⟩, hmax⟩)
    · exact ⟨Nat.zero_le _, List.forall_mem_nil _, Nat.zero_le _⟩
    · exact ⟨hlength, hdigits, hmax⟩
  · rintro ⟨hlength, hdigits, hmax⟩
    exact .inr ⟨⟨hdigits, hlength⟩, hmax⟩

/-- An authority that names a host is accepted iff its brackets fit, no character hides a delimiter,
the port is one, and the host is not empty. -/
theorem accepts_iff (h : NamesHost (hostInfo n) host port) :
    accepts n = true ↔
      bracketsFit n = true ∧ (∀ c ∈ n, hidesDelimiter c = false) ∧ IsPort port ∧ host ≠ [] := by
  rw [accepts, h.hostAndPort_eq]
  simp only [Bool.and_eq_true, portFits_iff]
  simp [and_assoc]

/-- An authority that is accepted names a host, and a port in range if any. -/
theorem exists_host (h : accepts n = true) :
    ∃ info host port, IsBehindLast '@' n info ∧ NamesHost info host port ∧ host ≠ [] ∧
      IsPort port := by
  have hfit : bracketsFit n = true := by
    simp only [accepts, Bool.and_eq_true] at h
    exact h.1.1.1
  obtain ⟨host, port, hnames⟩ := exists_names hfit
  obtain ⟨-, -, hport, hhost⟩ := (accepts_iff hnames).mp h
  exact ⟨hostInfo n, host, port, isBehindLast_afterLast '@' n, hnames, hhost, hport⟩

/-- Without brackets the host ends at the first colon, and in ASCII text nothing hides a
delimiter. -/
theorem accepts_ascii_iff (hascii : ∀ c ∈ n, c.toNat < 128)
    (hbracket : ∀ c ∈ n, c ≠ '[' ∧ c ≠ ']') :
    accepts n = true ↔ ∃ host tail port, hostInfo n = host ++ tail ∧ ':' ∉ host ∧
      IsPortTail tail port ∧ host ≠ [] ∧ IsPort port := by
  have hopen : '[' ∉ n := fun hmem => (hbracket _ hmem).1 rfl
  have hclose : ']' ∉ n := fun hmem => (hbracket _ hmem).2 rfl
  have hfit : bracketsFit n = true := by
    rw [bracketsFit, if_neg (by simpa using hopen)]
    simpa using hclose
  have hplain : ∀ c ∈ n, hidesDelimiter c = false := by
    intro c hc
    have hcode := hascii c hc
    simp only [hidesDelimiter, decide_eq_false_iff_not, List.mem_cons, List.not_mem_nil, or_false]
    omega
  have hnone : '[' ∉ hostInfo n := mt (isBehindLast_afterLast '@' n).mem hopen
  have hnames : ∀ {host tail port}, hostInfo n = host ++ tail → ':' ∉ host →
      IsPortTail tail port → NamesHost (hostInfo n) host port := by
    intro host tail port hinfo hcolon htail
    rw [hinfo] at hnone ⊢
    exact .plain hcolon hnone htail
  constructor
  · intro h
    obtain ⟨host, tail, port, hinfo, hcolon, htail⟩ := exists_portTail (hostInfo n)
    obtain ⟨-, -, hport, hhost⟩ := (accepts_iff (hnames hinfo hcolon htail)).mp h
    exact ⟨host, tail, port, hinfo, hcolon, htail, hhost, hport⟩
  · rintro ⟨host, tail, port, hinfo, hcolon, htail, hhost, hport⟩
    exact (accepts_iff (hnames hinfo hcolon htail)).mpr ⟨hfit, hplain, hport, hhost⟩

end Authority

end Rulebook
