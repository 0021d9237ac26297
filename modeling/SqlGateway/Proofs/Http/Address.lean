import SqlGateway.Http.Wire
import SqlGateway.Proofs.Text.Split

/-!
# When a message is sent

A draft becomes a message if its address is one of the web and its headers can be sent.  Reading an
address takes one part after the other from its front; here the parts of an address are said apart
from that, in the order in which they stand:

    scheme ':' slashes user '@' host ':' port rest

An address has such parts exactly if it can be read (`isSome_ofChars?_iff`), whatever the host: a
name, an address of four numbers, or an address of groups in brackets, which has colons of its own.
-/

namespace SqlGateway.Http

/-! ### The parts of an address -/

/-- The parts of an address; the user has its at sign with it, and the port its colon. -/
structure AddressParts where
  scheme : List Char
  slashes : List Char
  user : List Char
  host : List Char
  port : List Char
  rest : List Char

/-- The part of an address with the host. -/
def AddressParts.authority (parts : AddressParts) : List Char :=
  parts.user ++ (parts.host ++ parts.port)

/-- The address of its parts. -/
def AddressParts.text (parts : AddressParts) : List Char :=
  parts.scheme ++ ':' :: (parts.slashes ++ (parts.authority ++ parts.rest))

/-- A host as it is written: groups in brackets, or anything else without a colon. -/
inductive IsHostPart : List Char → Prop
  | groups {groups : List Char} : ']' ∉ groups → isGroupHost groups = true →
      IsHostPart ('[' :: groups ++ [']'])
  | name {name : List Char} : ':' ∉ name → name.head? ≠ some '[' → isHost name = true →
      IsHostPart name

/-- The parts are those of a web address. -/
structure AddressParts.IsWeb (parts : AddressParts) : Prop where
  scheme : parts.scheme.map Char.toLower = "http".toList ∨
    parts.scheme.map Char.toLower = "https".toList
  slashes : ∀ c ∈ parts.slashes, isSlash c = true
  authority : ∀ c ∈ parts.authority, endsHost c = false
  user : parts.user = [] ∨ ∃ name, parts.user = name ++ ['@']
  host : IsHostPart parts.host
  port : parts.port = [] ∨ ∃ digits, parts.port = ':' :: digits ∧ isPort digits = true
  place : '@' ∉ parts.host ++ parts.port
  rest : Text.StopsAt (fun c => !endsHost c) parts.rest

/-! ### Reading the parts -/

variable {text : List Char}

theorem afterScheme?_eq_some_iff {behind : List Char} :
    afterScheme? text = some behind ↔ ∃ scheme slashes,
      text = scheme ++ ':' :: (slashes ++ behind) ∧
      (scheme.map Char.toLower = "http".toList ∨ scheme.map Char.toLower = "https".toList) ∧
      (∀ c ∈ slashes, isSlash c = true) ∧ Text.StopsAt isSlash behind := by
  have hname : ∀ scheme name : String, scheme = name ↔ scheme.toList = name.toList :=
    fun _ _ => String.toList_inj.symm
  unfold afterScheme?
  constructor
  · intro hbehind
    by_cases hcolon : ':' ∈ text
    · obtain ⟨scheme, rest, rfl, hscheme⟩ := List.eq_append_cons_of_mem hcolon
      rw [Text.splitOnce?_append hscheme] at hbehind
      simp only [Option.ite_none_right_eq_some, Option.some.injEq, Bool.or_eq_true,
        decide_eq_true_eq, hname, String.toList_ofList] at hbehind
      obtain ⟨hweb, rfl⟩ := hbehind
      exact ⟨scheme, rest.takeWhile isSlash, by rw [List.takeWhile_append_dropWhile], hweb,
        fun c hc => List.mem_takeWhile_imp hc, Text.stopsAt_dropWhile isSlash rest⟩
    · rw [Text.splitOnce?_of_not_mem hcolon] at hbehind
      contradiction
  · rintro ⟨scheme, slashes, rfl, hweb, hslashes, hbehind⟩
    have hcolon : ':' ∉ scheme := by
      intro hmem
      have hlower : ':' ∈ scheme.map Char.toLower := List.mem_map.mpr ⟨':', hmem, by decide⟩
      rcases hweb with h | h <;> rw [h] at hlower <;> revert hlower <;> decide
    rw [Text.splitOnce?_append hcolon]
    simp only [Option.ite_none_right_eq_some, Option.some.injEq, Bool.or_eq_true,
      decide_eq_true_eq, hname, String.toList_ofList]
    exact ⟨hweb, Text.dropWhile_append_of_stopsAt hslashes hbehind⟩

/-- A text is cut at its last at sign. -/
theorem splitUser_eq {user place : List Char} (hplace : '@' ∉ place)
    (huser : user = [] ∨ ∃ name, user = name ++ ['@']) :
    (splitUser (user ++ place)).2 = place := by
  have hreverse : '@' ∉ place.reverse := by simpa using hplace
  unfold splitUser
  obtain rfl | ⟨name, rfl⟩ := huser
  · rw [List.nil_append, Text.splitOnce?_of_not_mem hreverse]
  · have hcut : (name ++ ['@'] ++ place).reverse = place.reverse ++ '@' :: name.reverse := by simp
    rw [hcut, Text.splitOnce?_append hreverse]
    simp

theorem exists_splitUser (authority : List Char) :
    ∃ user, authority = user ++ (splitUser authority).2 ∧
      (user = [] ∨ ∃ name, user = name ++ ['@']) ∧ '@' ∉ (splitUser authority).2 := by
  by_cases hat : '@' ∈ authority.reverse
  · obtain ⟨place, name, hcut, hplace⟩ := List.eq_append_cons_of_mem hat
    have hauthority : authority = name.reverse ++ ['@'] ++ place.reverse := by
      rw [← List.reverse_reverse authority, hcut]
      simp
    have hnot : '@' ∉ place.reverse := by simpa using hplace
    have hsplit := splitUser_eq hnot (.inr ⟨name.reverse, rfl⟩)
    rw [← hauthority] at hsplit
    exact ⟨name.reverse ++ ['@'], by rw [hsplit, ← hauthority], .inr ⟨_, rfl⟩, hsplit ▸ hnot⟩
  · have hnot : '@' ∉ authority := by simpa using hat
    have hsplit := splitUser_eq hnot (.inl rfl)
    rw [List.nil_append] at hsplit
    exact ⟨[], by rw [hsplit, List.nil_append], .inl rfl, hsplit.symm ▸ hnot⟩

/-! ### Hosts and ports -/

theorem isPortPart_iff {port : List Char} :
    isPortPart port = true ↔
      port = [] ∨ ∃ digits, port = ':' :: digits ∧ isPort digits = true := by
  unfold isPortPart
  split <;> simp_all

theorem stopsAt_of_isPortPart {port : List Char} (hport : isPortPart port = true) :
    Text.StopsAt (· != ':') port := by
  obtain rfl | ⟨digits, rfl, -⟩ := isPortPart_iff.mp hport <;> simp

theorem isHost_nil : isHost [] = false := by
  decide +kernel

theorem isHost_of_isHostPart {host : List Char} (hhost : IsHostPart host) : isHost host = true := by
  cases hhost with
  | groups hgroups hcount => simp [isHost, hcount]
  | name _ _ hname => exact hname

/-- A host without brackets goes as far as the first colon. -/
theorem splitHost_of_head? {place : List Char} (hhead : place.head? ≠ some '[') :
    splitHost place = (place.takeWhile (· != ':'), place.dropWhile (· != ':')) := by
  unfold splitHost
  split
  · simp at hhead
  · exact List.span_eq_takeWhile_dropWhile _ _

/-- A host as it is written is cut off in front of its port. -/
theorem splitHost_append {host port : List Char} (hhost : IsHostPart host)
    (hport : isPortPart port = true) : splitHost (host ++ port) = (host, port) := by
  cases hhost with
  | groups hgroups _ => simp [splitHost, Text.splitOnce?_append hgroups]
  | name hcolon hhead hname =>
      have hne : host ≠ [] := by
        rintro rfl
        simp [isHost_nil] at hname
      have hpass : ∀ c ∈ host, (c != ':') = true := fun c hc => by
        simpa using fun h : c = ':' => hcolon (h ▸ hc)
      have hstop := stopsAt_of_isPortPart hport
      rw [splitHost_of_head? (by rwa [List.head?_append_of_ne_nil _ hne]),
        Text.takeWhile_append_of_stopsAt hpass hstop, Text.dropWhile_append_of_stopsAt hpass hstop]

theorem isHostPart_splitHost {place : List Char} (hhost : isHost (splitHost place).1 = true) :
    IsHostPart (splitHost place).1 ∧ place = (splitHost place).1 ++ (splitHost place).2 := by
  by_cases hhead : place.head? = some '['
  · obtain ⟨rest, rfl⟩ := List.head?_eq_some_iff.mp hhead
    unfold splitHost at hhost ⊢
    by_cases hbracket : ']' ∈ rest
    · obtain ⟨groups, port, rfl, hgroups⟩ := List.eq_append_cons_of_mem hbracket
      simp only [Text.splitOnce?_append hgroups] at hhost ⊢
      have hcount : isGroupHost groups = true := by simpa [isHost] using hhost
      exact ⟨.groups hgroups hcount, by simp⟩
    · simp only [Text.splitOnce?_of_not_mem hbracket] at hhost
      have hlast : rest.getLast? = some ']' := by
        simp only [isHost, Bool.and_eq_true, beq_iff_eq] at hhost
        exact hhost.1
      exact absurd (List.mem_of_getLast? hlast) hbracket
  · rw [splitHost_of_head? hhead] at hhost ⊢
    refine ⟨.name ?_ ?_ hhost, List.takeWhile_append_dropWhile.symm⟩
    · intro hmem
      simpa using List.mem_takeWhile_imp hmem
    · cases place with
      | nil => simp
      | cons c rest => cases hcolon : c != ':' <;> simp_all

/-! ### Addresses and messages -/

/-- Reading an address fails at its scheme, its host or its port only. -/
theorem isSome_ofChars? :
    (Url.ofChars? text).isSome = true ↔ ∃ behind, afterScheme? (cleaned text) = some behind ∧
      isHost (splitHost (splitUser (behind.takeWhile fun c => !endsHost c)).2).1 = true ∧
      isPortPart (splitHost (splitUser (behind.takeWhile fun c => !endsHost c)).2).2 = true := by
  unfold Url.ofChars?
  cases afterScheme? (cleaned text) with
  | none => simp
  | some behind =>
      simp only [Option.bind_eq_bind, Option.bind_some, Option.some.injEq, exists_eq_left',
        ← Bool.and_eq_true]
      split <;> simp_all

/-- An address can be read exactly if it has the parts of a web address, once blanks at its ends and
line breaks and tabs inside it are left out. -/
theorem isSome_ofChars?_iff :
    (Url.ofChars? text).isSome = true ↔
      ∃ parts : AddressParts, cleaned text = parts.text ∧ parts.IsWeb := by
  rw [isSome_ofChars?]
  constructor
  · rintro ⟨behind, hbehind, hhost, hport⟩
    obtain ⟨scheme, slashes, htext, hweb, hslashes, -⟩ := afterScheme?_eq_some_iff.mp hbehind
    obtain ⟨user, hauthority, huser, hat⟩ :=
      exists_splitUser (behind.takeWhile fun c => !endsHost c)
    obtain ⟨hwritten, hplace⟩ := isHostPart_splitHost hhost
    rw [hplace] at hauthority hat
    refine ⟨⟨scheme, slashes, user, _, _, behind.dropWhile fun c => !endsHost c⟩, ?_, {
      scheme := hweb
      slashes := hslashes
      authority := fun c hc => ?_
      user := huser
      host := hwritten
      port := isPortPart_iff.mp hport
      place := hat
      rest := Text.stopsAt_dropWhile _ _ }⟩
    · rw [htext, AddressParts.text, AddressParts.authority, ← hauthority,
        List.takeWhile_append_dropWhile]
    · rw [AddressParts.authority, ← hauthority] at hc
      simpa using List.mem_takeWhile_imp hc
  · rintro ⟨parts, htext, hparts⟩
    have hport := isPortPart_iff.mpr hparts.port
    have hne : parts.authority ≠ [] := by
      intro hnil
      have hhost := isHost_of_isHostPart hparts.host
      simp only [AddressParts.authority, List.append_eq_nil_iff] at hnil
      simp [hnil.2.1, isHost_nil] at hhost
    have hstop : Text.StopsAt isSlash (parts.authority ++ parts.rest) := by
      obtain ⟨c, behind, hcons⟩ := List.exists_cons_of_ne_nil hne
      have hc := hparts.authority c (hcons ▸ List.mem_cons_self)
      rw [hcons, List.cons_append, Text.stopsAt_cons]
      simp_all [endsHost]
    have htake : (parts.authority ++ parts.rest).takeWhile (fun c => !endsHost c) =
        parts.authority :=
      Text.takeWhile_append_of_stopsAt (fun c hc => by simp [hparts.authority c hc]) hparts.rest
    refine ⟨parts.authority ++ parts.rest, afterScheme?_eq_some_iff.mpr
      ⟨parts.scheme, parts.slashes, htext, hparts.scheme, hparts.slashes, hstop⟩, ?_⟩
    rw [htake, AddressParts.authority, splitUser_eq hparts.place hparts.user,
      splitHost_append hparts.host hport]
    exact ⟨isHost_of_isHostPart hparts.host, hport⟩

/-- A draft can be sent: its address is one of the web, and its headers hold no control characters
but tabs. -/
structure Draft.IsSendable (draft : Draft) : Prop where
  address : ∃ parts : AddressParts, cleaned draft.address.toList = parts.text ∧ parts.IsWeb
  headers : ∀ header ∈ draft.headers, ∀ c ∈ header.2.toList, isControl c = false ∨ c = '\t'

/-- There is a message exactly for a draft that can be sent. -/
theorem Draft.isSome_message?_iff (draft : Draft) :
    draft.message?.isSome = true ↔ draft.IsSendable := by
  have hmessage : draft.message?.isSome = true ↔
      (Url.ofChars? draft.address.toList).isSome = true ∧
        (draft.headers.all fun header => header.2.toList.all isHeaderChar) = true := by
    unfold message?
    cases Url.ofChars? draft.address.toList with
    | none => simp
    | some url =>
        simp only [Option.bind_eq_bind, Option.bind_some, Option.isSome_some, true_and]
        split <;> rename_i hsent <;> simp [hsent]
  have hheaders : (draft.headers.all fun header => header.2.toList.all isHeaderChar) = true ↔
      ∀ header ∈ draft.headers, ∀ c ∈ header.2.toList, isControl c = false ∨ c = '\t' := by
    simp [isHeaderChar]
  rw [hmessage, isSome_ofChars?_iff, hheaders]
  exact ⟨fun ⟨haddress, hheaders⟩ => ⟨haddress, hheaders⟩,
    fun hdraft => ⟨hdraft.address, hdraft.headers⟩⟩

section Wire

variable {m : Type → Type} [Monad m] (wire : Message → m (Option Response)) {draft : Draft}

/-- A draft that cannot be sent does not reach the wire. -/
theorem overWire_of_not_isSendable (hdraft : ¬draft.IsSendable) :
    overWire wire draft = pure (.error "builder error") := by
  rw [← draft.isSome_message?_iff, Option.not_isSome_iff_eq_none] at hdraft
  rw [overWire, hdraft]

/-- A draft that can be sent is one message on the wire, and what comes back is the response. -/
theorem overWire_of_isSendable (hdraft : draft.IsSendable) :
    ∃ message, draft.message? = some message ∧
      overWire wire draft = do
        match ← wire message with
        | some response => return .ok response.received
        | none => return .error "error sending request" := by
  obtain ⟨message, hmessage⟩ := Option.isSome_iff_exists.mp (draft.isSome_message?_iff.mpr hdraft)
  refine ⟨message, hmessage, ?_⟩
  unfold overWire
  split
  · rename_i hnone
    rw [hmessage] at hnone
    contradiction
  · rename_i sent hsent
    obtain rfl : message = sent := by rwa [hmessage, Option.some.injEq] at hsent
    rfl

end Wire

end SqlGateway.Http
