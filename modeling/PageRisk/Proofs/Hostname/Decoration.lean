import PageRisk.Proofs.Hostname
import PageRisk.Proofs.Text.Words

set_option autoImplicit false

/-! # What may stand around a host

White space, user information, a `www.`, full stops, a port and a path do not go into the key of a host that
is no part of a URL, in whatever combination they stand around it (`normalize_around`). Each is found by the
character that sets it off, which stands in no part nearer to the host. -/

namespace PageRisk.Hostname

open Text (isBlank dropLastWhile)

/-! ## Hosts and their surroundings -/

/-- What a host is set apart by: white space, and the characters around user information, ports and
    paths. -/
def isMark (c : Char) : Bool :=
  isBlank c || ['/', '?', '#', '@', ':'].contains c

/-- A host in ASCII with nothing around it: no `isMark` in it, no full stop at its end and no `www.` at its
    start, in whatever letter case. -/
structure PlainHost (host : List Char) : Prop where
  ne_nil : host ≠ []
  ascii : ∀ c ∈ host, c.toNat < 128
  no_mark : ∀ c ∈ host, isMark c = false
  end_ne : host.getLast? ≠ some '.'
  no_www : ¬ "www.".toList <+: host.map Char.toLower

/-- What stands around a host. -/
structure Decoration where
  /-- White space before everything else. -/
  before : List Char
  /-- What stands before an `@`. -/
  user : Option (List Char)
  /-- A `www.` in some letter case. -/
  www : Option (List Char)
  /-- The number of full stops behind the host. -/
  dots : Nat
  /-- The digits behind a colon. -/
  port : Option (List Char)
  /-- A path, query or fragment, or nothing. -/
  tail : List Char
  /-- White space after everything else. -/
  after : List Char
  before_blank : ∀ c ∈ before, isBlank c = true
  user_clear : ∀ name ∈ user, ∀ c ∈ name, c ∉ ['/', '?', '#']
  www_letters : ∀ letters ∈ www, letters.map Char.toLower = "www.".toList
  port_digits : ∀ digits ∈ port, ∀ c ∈ digits, c.isDigit = true
  tail_start : ∀ c, tail.head? = some c → c ∈ ['/', '?', '#']
  after_blank : ∀ c ∈ after, isBlank c = true

namespace Decoration

/-- The host with its `www.` and its full stops. -/
def name (d : Decoration) (host : List Char) : List Char :=
  d.www.getD [] ++ (host ++ List.replicate d.dots '.')

/-- The `name` with all that is found next to it, up to the user information before and the path behind. -/
def place (d : Decoration) (host : List Char) : List Char :=
  d.name host ++ (d.port.map (':' :: ·)).getD []

/-- The host with everything around it. -/
def around (d : Decoration) (host : List Char) : List Char :=
  (d.before ++ (d.user.map (· ++ ['@'])).getD []) ++ (d.place host ++ (d.tail ++ d.after))

end Decoration

variable (d : Decoration) {host : List Char}

/-! ## The parts of a host -/

theorem withoutUser_append (before : List Char) {place : List Char} (h : '@' ∉ place) :
    withoutUser (before ++ '@' :: place) = place := by
  rw [withoutUser, Text.cutAtLast?_append h]

theorem withoutUser_of_not_mem {place : List Char} (h : '@' ∉ place) : withoutUser place = place := by
  rw [withoutUser, Text.cutAtLast?_eq_none h]

theorem withoutPort_append {name digits : List Char} (h : ∀ c ∈ digits, c.isDigit = true) :
    withoutPort (name ++ ':' :: digits) = name := by
  have hcolon : ':' ∉ digits := by
    intro hmem
    exact absurd (h ':' hmem) (by decide)
  rw [withoutPort, Text.cutAtLast?_append hcolon]
  simp only [List.all_eq_true.2 h, if_true]

theorem withoutPort_of_not_mem {name : List Char} (h : ':' ∉ name) : withoutPort name = name := by
  rw [withoutPort, Text.cutAtLast?_eq_none h]

/-- The `authority` of a text without a scheme ends before the first character that sets off a path. -/
theorem authority_append {front tail : List Char} (hscheme : ¬ "://".toList <:+: front ++ tail)
    (hfront : ∀ c ∈ front, c ∉ ['/', '?', '#']) (htail : ∀ c, tail.head? = some c → c ∈ ['/', '?', '#']) :
    authority (front ++ tail) = front := by
  have hends : ∀ c, (!(c == '/' || c == '?' || c == '#')) = true ↔ c ∉ ['/', '?', '#'] := by
    intro c
    simp [and_assoc]
  rw [authority, Text.cutAt?_eq_none_of_not_isInfix hscheme]
  dsimp only
  rw [List.takeWhile_append_of_pos fun c hc => (hends c).2 (hfront c hc)]
  rcases tail with - | ⟨c, tail⟩
  · simp
  · rw [List.takeWhile_cons_of_neg, List.append_nil]
    rw [hends]
    exact not_not_intro (htail c rfl)

/-! ## Reading a host with its surroundings -/

theorem www_mem {letters : List Char} (h : letters.map Char.toLower = "www.".toList) :
    ∀ c ∈ letters, c.toNat < 128 ∧ isMark c = false := by
  intro c hc
  have hlower : c.toLower ∈ "www.".toList := h ▸ List.mem_map_of_mem hc
  have hascii : c.toNat < 128 := by
    by_contra hbeyond
    rw [Unicode.toLower_of_not_ascii hbeyond] at hlower
    have hwww : ∀ e ∈ "www.".toList, e.toNat < 128 := List.all_iff_forall_prop.1 (by decide)
    exact hbeyond (hwww c hlower)
  refine ⟨hascii, ?_⟩
  exact Unicode.forall_ascii (motive := fun c => c.toLower ∈ "www.".toList → isMark c = false)
    (by decide +kernel) hascii hlower

/-- No character of the `name` is a mark. -/
theorem not_isMark_name (h : PlainHost host) : ∀ c ∈ d.name host, isMark c = false := by
  intro c hc
  rw [Decoration.name, List.mem_append, List.mem_append] at hc
  rcases hc with hc | hc | hc
  · cases hwww : d.www with
    | none => simp [hwww] at hc
    | some letters =>
      rw [hwww] at hc
      exact (www_mem (d.www_letters letters hwww) c hc).2
  · exact h.no_mark c hc
  · rw [List.eq_of_mem_replicate hc]
    decide

theorem not_isMark_of_isDigit {c : Char} (h : c.isDigit = true) : isMark c = false :=
  Unicode.forall_ascii (motive := fun c => c.isDigit = true → isMark c = false) (by decide +kernel)
    (Unicode.ascii_of_isDigit h) h

/-- In `place`, the colon of a port is the only mark. -/
theorem eq_colon_of_mem_place (h : PlainHost host) {c : Char} (hc : c ∈ d.place host)
    (hmark : isMark c = true) : c = ':' := by
  rw [Decoration.place, List.mem_append] at hc
  rcases hc with hc | hc
  · rw [not_isMark_name d h c hc] at hmark
    exact Bool.noConfusion hmark
  · cases hport : d.port with
    | none => simp [hport] at hc
    | some digits =>
      rw [hport, Option.map_some, Option.getD_some, List.mem_cons] at hc
      rcases hc with rfl | hc
      · rfl
      · rw [not_isMark_of_isDigit (d.port_digits digits hport c hc)] at hmark
        exact Bool.noConfusion hmark

theorem withoutPort_place (h : PlainHost host) : withoutPort (d.place host) = d.name host := by
  rw [Decoration.place]
  cases hport : d.port with
  | none =>
    rw [Option.map_none, Option.getD_none, List.append_nil]
    apply withoutPort_of_not_mem
    intro hcolon
    exact absurd (not_isMark_name d h ':' hcolon) (by decide)
  | some digits => exact withoutPort_append (d.port_digits digits hport)

/-- `withoutUser` finds the user information by the last `@`, which stands right before the host. -/
theorem withoutUser_front (h : PlainHost host) :
    withoutUser ((d.before ++ (d.user.map (· ++ ['@'])).getD []).dropWhile isBlank ++ d.place host)
      = d.place host := by
  have hplace : '@' ∉ d.place host := by
    intro hmem
    exact absurd (eq_colon_of_mem_place d h hmem (by decide)) (by decide)
  cases huser : d.user with
  | none =>
    rw [Option.map_none, Option.getD_none, List.append_nil, List.dropWhile_eq_nil_iff.2 d.before_blank]
    exact withoutUser_of_not_mem hplace
  | some name =>
    have hshape : (d.before ++ (name ++ ['@'])).dropWhile isBlank
        = (d.before ++ name).dropWhile isBlank ++ ['@'] := by
      rw [← List.append_assoc, List.dropWhile_append]
      split_ifs with hempty
      · rw [List.isEmpty_iff.1 hempty]
        decide
      · rfl
    rw [Option.map_some, Option.getD_some, hshape, List.append_assoc]
    exact withoutUser_append _ hplace

/-- Nothing before or in `place` sets off a path. -/
theorem not_mem_front (h : PlainHost host) :
    ∀ c ∈ (d.before ++ (d.user.map (· ++ ['@'])).getD []).dropWhile isBlank ++ d.place host,
      c ∉ ['/', '?', '#'] := by
  have hmark : ∀ c ∈ ['/', '?', '#'], isMark c = true ∧ isBlank c = false ∧ c ≠ ':' ∧ c ≠ '@' :=
    List.all_iff_forall_prop.1 (by decide)
  intro c hc hends
  obtain ⟨hisMark, hnotBlank, hcolon, hat⟩ := hmark c hends
  rcases List.mem_append.1 hc with hc | hc
  · rcases List.mem_append.1 ((List.dropWhile_suffix isBlank).subset hc) with hc | hc
    · rw [d.before_blank c hc] at hnotBlank
      exact Bool.noConfusion hnotBlank
    · cases huser : d.user with
      | none => simp [huser] at hc
      | some name =>
        rw [huser, Option.map_some, Option.getD_some, List.mem_append, List.mem_singleton] at hc
        rcases hc with hc | hc
        · exact d.user_clear name huser c hc hends
        · exact hat hc
  · exact hcolon (eq_colon_of_mem_place d h hc hisMark)

/-- Trimmed or not, what follows the host is nothing or sets off a path. -/
theorem head_of_tail {c : Char} (h : (Text.dropLastWhile isBlank (d.tail ++ d.after)).head? = some c) :
    c ∈ ['/', '?', '#'] := by
  obtain ⟨rest, hrest⟩ := Text.dropLastWhile_isPrefix isBlank (d.tail ++ d.after)
  have hhead : (d.tail ++ d.after).head? = some c := by
    rw [← hrest, List.head?_append, h, Option.some_or]
  cases htail : d.tail with
  | nil =>
    -- Nothing but white space follows, and all of it is trimmed.
    have hnil : Text.dropLastWhile isBlank d.after = [] := by
      rw [Text.dropLastWhile, List.dropWhile_eq_nil_iff.2 (by simpa using d.after_blank), List.reverse_nil]
    rw [htail, List.nil_append, hnil] at h
    exact absurd h.symm (Option.some_ne_none c)
  | cons t tail =>
    rw [htail, List.cons_append, List.head?_cons] at hhead
    exact d.tail_start c (by rw [htail]; exact hhead)

/-- What `hostPart` leaves of the text is the `name` of the host. -/
theorem hostPart_trim_around (h : PlainHost host) (hscheme : ¬ "://".toList <:+: d.around host) :
    hostPart (Text.trim (d.around host)) = d.name host := by
  have hname : d.name host ≠ [] := by simp [Decoration.name, h.ne_nil]
  have hne : d.place host ≠ [] := by simp [Decoration.place, hname]
  have hends : ∀ c, (d.place host).head? = some c ∨ (d.place host).getLast? = some c → isBlank c = false := by
    intro c hc
    have hmem : c ∈ d.place host := hc.elim List.mem_of_mem_head? List.mem_of_getLast?
    rw [← Bool.not_eq_true]
    intro hblank
    have hcolon := eq_colon_of_mem_place d h hmem (by rw [isMark, hblank, Bool.true_or])
    rw [hcolon] at hblank
    exact absurd hblank (by decide)
  have htrim := Text.trim_around hne hends (d.before ++ (d.user.map (· ++ ['@'])).getD []) (d.tail ++ d.after)
  rw [← Decoration.around] at htrim
  have hscheme' : ¬ "://".toList <:+: Text.trim (d.around host) := fun hin =>
    hscheme (hin.trans (Text.trim_isInfix _))
  have hoccurs : Text.occursIn "://".toList (Text.trim (d.around host)) = false := by
    rw [← Bool.not_eq_true, Text.occursIn_iff_isInfix]
    exact hscheme'
  rw [hostPart, hoccurs, if_neg Bool.false_ne_true, stripManually_eq]
  rw [htrim, ← List.append_assoc] at hscheme' ⊢
  rw [authority_append hscheme' (not_mem_front d h) fun _ => head_of_tail d, withoutUser_front d h,
    withoutPort_place d h]

/-! ## From the host to the key -/

theorem dropLastWhile_name (h : PlainHost host) :
    dropLastWhile (· == '.') (d.name host) = d.www.getD [] ++ host := by
  obtain ⟨front, last, rfl⟩ := (List.eq_nil_or_concat host).resolve_left h.ne_nil
  have hlast : (last == '.') = false := by
    rw [beq_eq_false_iff_ne]
    rintro rfl
    exact h.end_ne (by simp)
  have hback : (d.name (front.concat last)).reverse
      = List.replicate d.dots '.' ++ last :: (d.www.getD [] ++ front).reverse := by
    simp [Decoration.name]
  rw [dropLastWhile, hback, List.dropWhile_append_of_pos, List.dropWhile_cons_of_neg (by simp [hlast])]
  · simp
  · intro c hc
    rw [List.eq_of_mem_replicate hc]
    rfl

/-- `dropWww` leaves a host without a `www.` of it with one, in lower case. -/
theorem dropWww_lower (h : PlainHost host) :
    dropWww ((d.www.getD [] ++ host).map Char.toLower) = host.map Char.toLower := by
  cases hwww : d.www with
  | none =>
    rw [Option.getD_none, List.nil_append, dropWww_eq_self_iff]
    intro rest hrest
    exact absurd ⟨rest, hrest.symm⟩ h.no_www
  | some letters =>
    have hletters : "www.".toList = ['w', 'w', 'w', '.'] := by decide
    rw [Option.getD_some, List.map_append, d.www_letters letters hwww, hletters]
    rcases host with - | ⟨c, host⟩
    · exact absurd rfl h.ne_nil
    · rfl

/-- Whatever stands `around` a `PlainHost`, its key is the host in lower case. -/
theorem normalize_around (h : PlainHost host) (hscheme : ¬ "://".toList <:+: d.around host) :
    normalize (String.ofList (d.around host)) = String.ofList (host.map Char.toLower) := by
  have hascii : ∀ c ∈ d.www.getD [] ++ host, c.toNat < 128 := by
    intro c hc
    rcases List.mem_append.1 hc with hc | hc
    · cases hwww : d.www with
      | none => simp [hwww] at hc
      | some letters =>
        rw [hwww] at hc
        exact (www_mem (d.www_letters letters hwww) c hc).1
    · exact h.ascii c hc
  rw [normalize, String.toList_ofList, normalizeChars, hostPart_trim_around d h hscheme,
    dropLastWhile_name d h, Unicode.lowercase_of_ascii hascii, dropWww_lower d h]

/-- Everything that a `Decoration` can have, with marks in the user information and in the path. -/
def fullDecoration : Decoration where
  before := " \t".toList
  user := some "me:x@home".toList
  www := some "wWw.".toList
  dots := 2
  port := some "080".toList
  tail := "/a@b:1?c".toList
  after := "\n".toList
  before_blank := List.all_iff_forall_prop.1 (by decide)
  user_clear := by
    rintro _ ⟨⟩
    exact List.all_iff_forall_prop.1 (by decide)
  www_letters := by decide
  port_digits := by
    rintro _ ⟨⟩
    exact List.all_iff_forall_prop.1 (by decide)
  tail_start := by
    rintro _ ⟨⟩
    decide
  after_blank := List.all_iff_forall_prop.1 (by decide)

theorem fullDecoration_key :
    String.ofList (fullDecoration.around "Example.COM".toList)
        = " \tme:x@home@wWw.Example.COM..:080/a@b:1?c\n"
      ∧ PlainHost "Example.COM".toList
      ∧ ¬ "://".toList <:+: fullDecoration.around "Example.COM".toList
      ∧ normalize (String.ofList (fullDecoration.around "Example.COM".toList)) = "example.com" := by
  have hplain : PlainHost "Example.COM".toList :=
    ⟨by decide, List.all_iff_forall_prop.1 (by decide), List.all_iff_forall_prop.1 (by decide), by decide,
      by decide⟩
  have hscheme : ¬ "://".toList <:+: fullDecoration.around "Example.COM".toList := by decide
  have hkey := normalize_around fullDecoration hplain hscheme
  have hlower : String.ofList ("Example.COM".toList.map Char.toLower) = "example.com" := by decide
  exact ⟨by decide, hplain, hscheme, hkey.trans hlower⟩

end PageRisk.Hostname
