import WifiAccess.Rfid.Rc522

/-! What `ReadID` does with any chip: how long it takes, which registers it changes, and
which bytes a number is made of. -/

namespace WifiAccess

open RcProg

/-! ## How long an exchange takes -/

namespace RcProg

theorem within_read (reg : Byte) : (readRawRC reg).Within 1 := .perform (RcOp.readRawRC reg)

theorem within_write (reg value : Byte) : (writeRawRC reg value).Within 1 :=
  .perform (RcOp.writeRawRC reg value)

theorem within_setBitMask (reg mask : Byte) : (setBitMask reg mask).Within 2 :=
  (within_read reg).after (by decide) fun tmp => within_write reg (tmp ||| mask)

theorem within_clearBitMask (reg mask : Byte) : (clearBitMask reg mask).Within 2 :=
  (within_read reg).after (by decide) fun tmp => within_write reg (tmp &&& ~~~mask)

theorem within_writeFifo (bytes : List Byte) : (writeFifo bytes).Within bytes.length := by
  induction bytes with
  | nil => exact .ret 0 ()
  | cons value rest ih =>
    exact (within_write fifoDataReg value).after (Nat.le_add_left 1 rest.length) fun _ => ih

theorem within_readFifo (n : Nat) : (readFifo n).Within n := by
  induction n with
  | zero => exact .ret 0 []
  | succ n ih =>
    refine (within_read fifoDataReg).after (Nat.le_add_left 1 n) fun value => ?_
    exact ih.after (Nat.le_refl n) fun rest => .ret _ (value :: rest)

theorem within_pollIrq (waitFor : Byte) (i : Nat) : (pollIrq waitFor i).Within i := by
  induction i with
  | zero => exact .ret 0 _
  | succ i ih =>
    exact (within_read comIrqReg).after (Nat.le_add_left 1 i) fun n => .ite ih (.ret i (i, n))

end RcProg

theorem answerBytes_pos (level : Byte) : 1 ≤ answerBytes level := by
  unfold answerBytes
  by_cases empty : level = 0#8
  · simp [empty]
  · have some_byte : level.toNat ≠ 0 := fun zero => empty (BitVec.eq_of_toNat_eq zero)
    simp only [empty, if_false]
    split
    · decide
    · omega

theorem answerBytes_le (level : Byte) : answerBytes level ≤ 18 := by
  unfold answerBytes
  by_cases empty : level = 0#8
  · simp [empty]
  · simp only [empty, if_false]
    split
    · exact Nat.le_refl 18
    · omega

theorem within_takeAnswer (command irqEn : Byte) (waited : Nat × Byte) (buf : Image 18)
    (unLen : Byte) :
    (takeAnswer command irqEn waited buf unLen).Within 21 := by
  unfold takeAnswer
  refine .ite ?_ (.ret 21 _)
  refine (within_read errorReg).after (by decide) fun _ => .ite (.ite ?_ (.ret 20 _)) (.ret 20 _)
  refine (within_read fifoLevelReg).after (by decide) fun level => ?_
  refine (within_read controlReg).after (by decide) fun _ => ?_
  exact (within_readFifo (answerBytes level)).after (answerBytes_le level) fun _ => .ret _ _

theorem within_startSend (command : Byte) : (startSend command).Within 2 :=
  .ite (within_setBitMask bitFramingReg 0x80#8) (.ret 2 ())

theorem within_pcdComMF522 (command : Byte) (buf : Image 18) (inLenByte : Nat) (unLen : Byte) :
    (pcdComMF522 command buf inLenByte unLen).Within (inLenByte + 291) := by
  unfold pcdComMF522
  have request : (writeFifo (buf.field 0 inLenByte)).Within inLenByte := by
    have size := within_writeFifo (buf.field 0 inLenByte)
    rwa [Image.length_field] at size
  refine (within_write comIEnReg _).after (by omega) fun _ => ?_
  refine (within_clearBitMask comIrqReg 0x80#8).after (by omega) fun _ => ?_
  refine (within_write commandReg pcdIdle).after (by omega) fun _ => ?_
  refine (within_setBitMask fifoLevelReg 0x80#8).after (by omega) fun _ => ?_
  refine request.after (by omega) fun _ => ?_
  refine (within_write commandReg command).after (by omega) fun _ => ?_
  refine (within_startSend command).after (by omega) fun _ => ?_
  refine (within_pollIrq _ 256).after (by omega) fun waited => ?_
  refine (within_clearBitMask bitFramingReg 0x80#8).after (by omega) fun _ => ?_
  refine (within_takeAnswer command _ waited buf unLen).after (by omega) fun taken => ?_
  refine (within_setBitMask controlReg 0x80#8).after (by omega) fun _ => ?_
  exact (within_write commandReg pcdIdle).after (by omega) fun _ => .ret _ taken

theorem within_pcdRequest (locals : Locals) (reqCode : Byte) :
    (pcdRequest locals reqCode).Within 297 := by
  unfold pcdRequest
  refine (within_clearBitMask status2Reg 0x08#8).after (by decide) fun _ => ?_
  refine (within_write bitFramingReg 0x07#8).after (by decide) fun _ => ?_
  refine (within_setBitMask txControlReg 0x03#8).after (by decide) fun _ => ?_
  exact (within_pcdComMF522 pcdTransceive _ 1 locals.unLen).after (by decide) fun _ => .ret _ _

theorem within_pcdAnticoll (locals : Locals) : (pcdAnticoll locals).Within 300 := by
  unfold pcdAnticoll
  refine (within_clearBitMask status2Reg 0x08#8).after (by decide) fun _ => ?_
  refine (within_write bitFramingReg 0x00#8).after (by decide) fun _ => ?_
  refine (within_clearBitMask collReg 0x80#8).after (by decide) fun _ => ?_
  refine (within_pcdComMF522 pcdTransceive _ 2 locals.unLen).after (by decide) fun _ => ?_
  exact (within_setBitMask collReg 0x80#8).after (by decide) fun _ => .ret _ _

theorem within_readID (request anticoll : Locals) : (readID request anticoll).Within 597 := by
  unfold readID
  refine (within_pcdRequest request piccReqall).after (by decide) fun found => .ite ?_ (.ret _ _)
  exact (within_pcdAnticoll anticoll).after (by decide) fun _ => .ret _ _

/-! ## Which registers it changes -/

def RcOp.address : RcOp → Byte
  | readRawRC address => address
  | writeRawRC address _ => address

/-- An access that keeps the chip as it was set up: the antenna driver stays on, no command
but the exchange is started, and the registers of the timer and the modem are left alone. -/
def RcOp.Tame : RcOp → Prop
  | readRawRC _ => True
  | writeRawRC address value =>
    address ∈ [commandReg, comIEnReg, comIrqReg, status2Reg, fifoDataReg, fifoLevelReg, controlReg,
      bitFramingReg,
      collReg, txControlReg] ∧
      (address = txControlReg → value &&& 0x03#8 = 0x03#8) ∧
      (address = commandReg → value = pcdIdle ∨ value = pcdTransceive)

/-- A register of the exchange that any value may be written to. -/
def Plain (reg : Byte) : Prop :=
  reg ∈ [comIEnReg, comIrqReg, status2Reg, fifoDataReg, fifoLevelReg, controlReg,
    bitFramingReg, collReg]

instance (reg : Byte) : Decidable (Plain reg) := inferInstanceAs (Decidable (_ ∈ _))

namespace RcProg

theorem tame_write {reg : Byte} (plain : Plain reg) (value : Byte) :
    (RcOp.writeRawRC reg value).Tame := by
  simp only [Plain, List.mem_cons, List.not_mem_nil, or_false] at plain
  rcases plain with rfl | rfl | rfl | rfl | rfl | rfl | rfl | rfl
  all_goals simp [RcOp.Tame, commandReg, comIEnReg, comIrqReg, status2Reg, fifoDataReg,
    fifoLevelReg, controlReg,
    bitFramingReg, collReg, txControlReg]

theorem only_read (reg : Byte) : Prog.Only RcOp.Tame (readRawRC reg) := ⟨trivial, fun _ => trivial⟩

theorem only_write {reg : Byte} (plain : Plain reg) (value : Byte) :
    Prog.Only RcOp.Tame (writeRawRC reg value) :=
  ⟨tame_write plain value, fun _ => trivial⟩

theorem only_command {command : Byte} (known : command = pcdIdle ∨ command = pcdTransceive) :
    Prog.Only RcOp.Tame (writeRawRC commandReg command) :=
  ⟨⟨by decide, fun same => (by cases same), fun _ => known⟩, fun _ => trivial⟩

theorem only_setBitMask {reg : Byte} (plain : Plain reg) (mask : Byte) :
    Prog.Only RcOp.Tame (setBitMask reg mask) :=
  (only_read reg).bind fun tmp => only_write plain (tmp ||| mask)

theorem only_clearBitMask {reg : Byte} (plain : Plain reg) (mask : Byte) :
    Prog.Only RcOp.Tame (clearBitMask reg mask) :=
  (only_read reg).bind fun tmp => only_write plain (tmp &&& ~~~mask)

theorem only_antenna : Prog.Only RcOp.Tame (setBitMask txControlReg 0x03#8) := by
  refine (only_read txControlReg).bind fun tmp =>
    ⟨⟨by decide, fun _ => ?_, fun same => by cases same⟩, fun _ => trivial⟩
  apply BitVec.eq_of_getLsbD_eq
  intro i _
  rw [BitVec.getLsbD_and, BitVec.getLsbD_or]
  cases (0x03#8).getLsbD i
  · exact Bool.and_false _
  · rw [Bool.or_true, Bool.and_true]

theorem only_writeFifo (bytes : List Byte) : Prog.Only RcOp.Tame (writeFifo bytes) := by
  induction bytes with
  | nil => exact .ret ()
  | cons value rest ih => exact (only_write (by decide) value).bind fun _ => ih

theorem only_readFifo (n : Nat) : Prog.Only RcOp.Tame (readFifo n) := by
  induction n with
  | zero => exact .ret []
  | succ n ih =>
    exact (only_read fifoDataReg).bind fun value => ih.bind fun rest => .ret (value :: rest)

theorem only_pollIrq (waitFor : Byte) (i : Nat) : Prog.Only RcOp.Tame (pollIrq waitFor i) := by
  induction i with
  | zero => exact .ret _
  | succ i ih => exact (only_read comIrqReg).bind fun n => .ite ih (.ret (i, n))

end RcProg

theorem only_takeAnswer (command irqEn : Byte) (waited : Nat × Byte) (buf : Image 18)
    (unLen : Byte) :
    Prog.Only RcOp.Tame (takeAnswer command irqEn waited buf unLen) := by
  unfold takeAnswer
  refine .ite ((only_read errorReg).bind fun _ => .ite (.ite ?_ (.ret _)) (.ret _)) (.ret _)
  refine (only_read fifoLevelReg).bind fun level => (only_read controlReg).bind fun _ => ?_
  exact (only_readFifo (answerBytes level)).bind fun _ => .ret _

theorem only_pcdComMF522 (buf : Image 18) (inLenByte : Nat) (unLen : Byte) :
    Prog.Only RcOp.Tame (pcdComMF522 pcdTransceive buf inLenByte unLen) := by
  unfold pcdComMF522
  refine (only_write (by decide) _).bind fun _ =>
    (only_clearBitMask (by decide) 0x80#8).bind fun _ => ?_
  refine (only_command (.inl rfl)).bind fun _ => (only_setBitMask (by decide) 0x80#8).bind fun _ =>
    ?_
  refine (only_writeFifo _).bind fun _ => (only_command (.inr rfl)).bind fun _ => ?_
  refine Prog.Only.bind (.ite (only_setBitMask (by decide) 0x80#8) (.ret ())) fun _ =>
    (only_pollIrq _ 256).bind fun waited => ?_
  refine (only_clearBitMask (by decide) 0x80#8).bind fun _ =>
    (only_takeAnswer _ _ waited buf unLen).bind fun taken => ?_
  exact (only_setBitMask (by decide) 0x80#8).bind fun _ =>
    (only_command (.inl rfl)).bind fun _ => .ret taken

theorem only_readID (request anticoll : Locals) :
    Prog.Only RcOp.Tame (readID request anticoll) := by
  have asked : Prog.Only RcOp.Tame (pcdRequest request piccReqall) := by
    unfold pcdRequest
    refine (only_clearBitMask (by decide) 0x08#8).bind fun _ =>
      (only_write (by decide) 0x07#8).bind fun _ => ?_
    exact only_antenna.bind fun _ => (only_pcdComMF522 _ 1 _).bind fun _ => .ret _
  have numbered : Prog.Only RcOp.Tame (pcdAnticoll anticoll) := by
    unfold pcdAnticoll
    refine (only_clearBitMask (by decide) 0x08#8).bind fun _ =>
      (only_write (by decide) 0x00#8).bind fun _ => ?_
    refine (only_clearBitMask (by decide) 0x80#8).bind fun _ =>
      (only_pcdComMF522 _ 2 _).bind fun _ => ?_
    exact (only_setBitMask (by decide) 0x80#8).bind fun _ => .ret _
  unfold readID
  exact asked.bind fun found => .ite (numbered.bind fun _ => .ret _) (.ret none)

/-! ## How an exchange ends -/

/-- The accesses end with the timer stopped and the chip idle, up to the collision register. -/
def Rests (trace : List RcOp) : Prop :=
  ∃ earlier value later, trace = earlier ++ .writeRawRC controlReg (value ||| 0x80#8) ::
    .writeRawRC commandReg pcdIdle :: later ∧
    ∀ op ∈ later, op.address = collReg

section Rests

variable {σ α β : Type} (handle : (op : RcOp) → σ → op.Res × σ)

theorem Rests.behind {second : List RcOp} (rests : Rests second) (first : List RcOp) :
    Rests (first ++ second) := by
  obtain ⟨earlier, value, later, rfl, apart⟩ := rests
  exact ⟨first ++ earlier, value, later, by rw [List.append_assoc], apart⟩

theorem Rests.before {first : List RcOp} (rests : Rests first) {second : List RcOp}
    (apart : ∀ op ∈ second, op.address = collReg) : Rests (first ++ second) := by
  obtain ⟨earlier, value, later, rfl, after⟩ := rests
  refine ⟨earlier, value, later ++ second, by
    rw [List.append_assoc, List.cons_append, List.cons_append], ?_⟩
  intro op member
  rcases List.mem_append.mp member with old | new
  · exact after op old
  · exact apart op new

theorem Rests.bind {prog : RcProg α} {next : α → RcProg β}
    (rests : ∀ value state, Rests ((next value).trace handle state)) (state : σ) :
    Rests ((prog >>= next).trace handle state) := by
  rw [Prog.trace_bind]
  exact (rests _ _).behind _

theorem rests_pcdComMF522 (command : Byte) (buf : Image 18) (inLenByte : Nat) (unLen : Byte)
    (state : σ) :
    Rests ((pcdComMF522 command buf inLenByte unLen).trace handle state) := by
  unfold pcdComMF522
  refine .bind handle (fun _ => .bind handle fun _ => .bind handle fun _ => .bind handle fun _ =>
    .bind handle fun _ => ?_) state
  refine .bind handle fun _ => .bind handle fun _ => .bind handle fun _ => .bind handle fun _ =>
    .bind handle fun taken state => ?_
  exact ⟨[.readRawRC controlReg], (handle (.readRawRC controlReg) state).1, [], rfl,
    fun _ member => by cases member⟩

theorem rests_readID (request anticoll : Locals) (state : σ) :
    Rests ((readID request anticoll).trace handle state) := by
  have asked (state : σ) : Rests ((pcdRequest request piccReqall).trace handle state) := by
    unfold pcdRequest
    refine .bind handle (fun _ => .bind handle fun _ => .bind handle fun _ state => ?_) state
    rw [Prog.trace_bind]
    exact (rests_pcdComMF522 handle _ _ _ _ state).before fun _ member => by cases member
  have numbered (state : σ) : Rests ((pcdAnticoll anticoll).trace handle state) := by
    unfold pcdAnticoll
    refine .bind handle (fun _ => .bind handle fun _ => .bind handle fun _ state => ?_) state
    rw [Prog.trace_bind]
    refine (rests_pcdComMF522 handle _ _ _ _ state).before fun op member => ?_
    rcases List.mem_cons.mp member with rfl | member
    · rfl
    · rw [List.mem_singleton.mp member]
      rfl
  unfold readID
  rw [Prog.trace_bind]
  split
  · refine Rests.behind ?_ _
    rw [Prog.trace_bind]
    exact (numbered _).before fun _ member => by cases member
  · exact (asked state).before fun _ member => by cases member

end Rests

/-- Whatever the chip answers, `ReadID` takes at most 597 accesses, leaves the chip as it was
set up, and ends with the timer stopped and the chip idle. -/
theorem readID_tame {σ : Type} (handle : (op : RcOp) → σ → op.Res × σ) (request anticoll : Locals)
    (state : σ) :
    let trace := (readID request anticoll).trace handle state
    trace.length ≤ 597 ∧ (∀ op ∈ trace, op.Tame) ∧ Rests trace :=
  ⟨(within_readID request anticoll).length_trace handle state,
    (only_readID request anticoll).trace handle state,
    rests_readID handle request anticoll state⟩

/-! ## What a number is made of -/

/-- The byte that an access takes from the FIFO. -/
def fifoAnswer : (op : RcOp) → op.Res → Option Byte
  | .readRawRC address, value => if address = fifoDataReg then some value else none
  | .writeRawRC .., _ => none

/-- An access that takes nothing from the FIFO. -/
def RcOp.Blind (op : RcOp) : Prop := op ≠ .readRawRC fifoDataReg

namespace RcProg

theorem skips_blind (op : RcOp) (blind : op.Blind) (result : op.Res) :
    fifoAnswer op result = none := by
  cases op with
  | readRawRC address =>
    have other : address ≠ fifoDataReg := fun same => blind (congrArg RcOp.readRawRC same)
    exact if_neg other
  | writeRawRC address value => rfl

theorem blind_write (reg value : Byte) : Prog.Only RcOp.Blind (writeRawRC reg value) :=
  ⟨fun same => (by cases same), fun _ => trivial⟩

theorem blind_read {reg : Byte} (other : reg ≠ fifoDataReg) :
    Prog.Only RcOp.Blind (readRawRC reg) :=
  ⟨fun same => other (RcOp.readRawRC.inj same), fun _ => trivial⟩

theorem blind_setBitMask {reg : Byte} (other : reg ≠ fifoDataReg) (mask : Byte) :
    Prog.Only RcOp.Blind (setBitMask reg mask) :=
  (blind_read other).bind fun _ => blind_write reg _

theorem blind_clearBitMask {reg : Byte} (other : reg ≠ fifoDataReg) (mask : Byte) :
    Prog.Only RcOp.Blind (clearBitMask reg mask) :=
  (blind_read other).bind fun _ => blind_write reg _

theorem blind_writeFifo (bytes : List Byte) : Prog.Only RcOp.Blind (writeFifo bytes) := by
  induction bytes with
  | nil => exact .ret ()
  | cons value rest ih => exact (blind_write fifoDataReg value).bind fun _ => ih

theorem blind_pollIrq (waitFor : Byte) (i : Nat) : Prog.Only RcOp.Blind (pollIrq waitFor i) := by
  induction i with
  | zero => exact .ret _
  | succ i ih => exact (blind_read (by decide)).bind fun n => .ite ih (.ret (i, n))

end RcProg

section Takes

variable {σ α β : Type} (handle : (op : RcOp) → σ → op.Res × σ)

/-- The bytes that a run takes from the FIFO. -/
def RcProg.taken (prog : RcProg α) (state : σ) : List Byte := prog.gather fifoAnswer handle state

theorem taken_bind (prog : RcProg α) (next : α → RcProg β) (state : σ) :
    RcProg.taken handle (prog >>= next) state =
      prog.taken handle state ++ (next (prog.run handle state).1).taken handle
        (prog.run handle state).2 :=
  Prog.gather_bind fifoAnswer handle prog next state

theorem taken_blind {prog : RcProg α} (blind : Prog.Only RcOp.Blind prog) (state : σ) :
    prog.taken handle state = [] :=
  blind.gather_eq_nil fifoAnswer handle skips_blind state

@[simp] theorem taken_pure (value : α) (state : σ) :
    (pure value : RcProg α).taken handle state = [] := rfl

theorem taken_readFifo (n : Nat) (state : σ) :
    (readFifo n).taken handle state = ((readFifo n).run handle state).1 ∧
      ((readFifo n).run handle state).1.length = n := by
  induction n generalizing state with
  | zero => exact ⟨rfl, rfl⟩
  | succ n ih =>
    obtain ⟨same, size⟩ := ih ((readRawRC fifoDataReg).run handle state).2
    have first : (readRawRC fifoDataReg).taken handle state =
        [((readRawRC fifoDataReg).run handle state).1] := rfl
    rw [readFifo, Prog.run_bind, Prog.run_bind, taken_bind, taken_bind, same, first, taken_pure,
      List.append_nil, Prog.run_pure]
    exact ⟨rfl, congrArg (· + 1) size⟩

/-- An exchange that fails leaves the buffer alone; any other takes 1 to 18 bytes, which
replace the first ones of the buffer. -/
def CardAnswered (buf : Image 18) (result : PcdExchange) (bytes : List Byte) : Prop :=
  (result.status = .miErr ∧ bytes = [] ∧ result.buf = buf) ∨
    (1 ≤ bytes.length ∧ bytes.length ≤ 18 ∧ result.buf = buf.load bytes)

theorem cardAnswered_takeAnswer (irqEn : Byte) (waited : Nat × Byte) (buf : Image 18) (unLen : Byte)
    (state : σ) :
    CardAnswered buf ((takeAnswer pcdTransceive irqEn waited buf unLen).run handle state).1
      ((takeAnswer pcdTransceive irqEn waited buf unLen).taken handle state) := by
  unfold takeAnswer
  split
  · rw [taken_bind, Prog.run_bind, taken_blind handle (blind_read (by decide)), List.nil_append]
    split
    · rw [if_pos rfl, taken_bind, Prog.run_bind, taken_blind handle (blind_read (by decide)),
        List.nil_append, taken_bind,
        Prog.run_bind, taken_blind handle (blind_read (by decide)), List.nil_append, taken_bind,
          Prog.run_bind, taken_pure,
        List.append_nil, Prog.run_pure]
      obtain ⟨same, size⟩ := taken_readFifo handle (answerBytes ((readRawRC fifoLevelReg).run handle
        ((readRawRC errorReg).run handle state).2).1)
          ((readRawRC controlReg).run handle ((readRawRC fifoLevelReg).run handle
          ((readRawRC errorReg).run handle state).2).2).2
      rw [same]
      exact .inr ⟨by rw [size]; exact answerBytes_pos _, by rw [size]; exact answerBytes_le _, rfl⟩
    · exact .inl ⟨rfl, rfl, rfl⟩
  · exact .inl ⟨rfl, rfl, rfl⟩

theorem cardAnswered_pcdComMF522 (buf : Image 18) (inLenByte : Nat) (unLen : Byte) (state : σ) :
    CardAnswered buf ((pcdComMF522 pcdTransceive buf inLenByte unLen).run handle state).1
      ((pcdComMF522 pcdTransceive buf inLenByte unLen).taken handle state) := by
  have quiet {prog : RcProg Unit} (blind : Prog.Only RcOp.Blind prog) {next : RcProg PcdExchange}
      (later : ∀ state, CardAnswered buf (next.run handle state).1 (next.taken handle state))
        (state : σ) :
      CardAnswered buf ((prog >>= fun _ => next).run handle state).1
        (RcProg.taken handle (prog >>= fun _ => next) state) := by
    rw [taken_bind, Prog.run_bind, taken_blind handle blind]
    exact later _
  unfold pcdComMF522
  refine quiet (blind_write _ _) (quiet (blind_clearBitMask (by decide) _) ?_) state
  refine quiet (blind_write _ _) (quiet (blind_setBitMask (by decide) _) ?_)
  refine quiet (blind_writeFifo _)
    (quiet (blind_write _ _) (quiet (blind_setBitMask (by decide) _) fun state => ?_))
  rw [taken_bind, Prog.run_bind, taken_blind handle (blind_pollIrq _ _)]
  refine quiet (blind_clearBitMask (by decide) _) (fun state => ?_) _
  have ends (taken : PcdExchange) : Prog.Only RcOp.Blind (do
      setBitMask controlReg 0x80#8
      writeRawRC commandReg pcdIdle
      return taken) := (blind_setBitMask (by decide) _).bind fun _ =>
        (blind_write _ _).bind fun _ => .ret taken
  rw [taken_bind, Prog.run_bind, taken_blind handle (ends _), List.append_nil]
  exact cardAnswered_takeAnswer handle _ _ buf unLen state

end Takes

section Number

variable {σ : Type} (handle : (op : RcOp) → σ → op.Res × σ)

theorem cardIdOf_toNat {first second third fourth : Byte} :
    (cardIdOf [first, second, third, fourth]).toNat =
      first.toNat * 2 ^ 24 + second.toNat * 2 ^ 16 + third.toNat * 2 ^ 8 + fourth.toNat := by
  simp only [cardIdOf, List.getD_cons_zero, List.getD_cons_succ]
  bv_omega

theorem field_four (buf : Image 18) :
    buf.field 0 4 = [buf.byte 0, buf.byte 1, buf.byte 2, buf.byte 3] := by
  rw [Image.field_succ, Image.field_succ, Image.field_succ, Image.field_succ]
  rfl

/-- The exchange in the middle of `PcdAnticoll`. -/
theorem pcdAnticoll_exchange (locals : Locals) (state : σ) :
    ∃ (got : PcdExchange) (bytes : List Byte),
    CardAnswered (locals.buf.put 0 [piccAnticoll1, 0x20#8]) got bytes ∧
      (pcdAnticoll locals).taken handle state = bytes ∧
      ((pcdAnticoll locals).run handle state).1 =
        if got.status = .miOk then
          (if snrCheck got.buf ≠ got.buf.byte 4 then .miErr else .miOk, some (got.buf.field 0 4))
        else (got.status, none) := by
  unfold pcdAnticoll
  rw [taken_bind, Prog.run_bind, taken_blind handle (blind_clearBitMask (by decide) _),
    List.nil_append, taken_bind,
    Prog.run_bind, taken_blind handle (blind_write _ _), List.nil_append, taken_bind, Prog.run_bind,
    taken_blind handle (blind_clearBitMask (by decide) _), List.nil_append, taken_bind,
      Prog.run_bind, taken_bind,
    Prog.run_bind, taken_blind handle (blind_setBitMask (by decide) _), taken_pure, List.append_nil,
      List.append_nil]
  exact ⟨_, _, cardAnswered_pcdComMF522 handle _ 2 locals.unLen _, rfl, rfl⟩

/-- What `PcdAnticoll` hands back as a number has passed the check. -/
theorem pcdAnticoll_checked (locals : Locals) (state : σ) {number : Option (List Byte)}
    (stored : ((pcdAnticoll locals).run handle state).1 = (.miOk, number)) :
    let bytes := (pcdAnticoll locals).taken handle state
    let buf := (locals.buf.put 0 [piccAnticoll1, 0x20#8]).load bytes
    1 ≤ bytes.length ∧ bytes.length ≤ 18 ∧ number = some (buf.field 0 4) ∧
      snrCheck buf = buf.byte 4 := by
  intro bytes buf
  obtain ⟨got, _, answered, rfl, ran⟩ := pcdAnticoll_exchange handle locals state
  rw [ran] at stored
  split at stored
  · rename_i ok
    obtain ⟨checked, same⟩ := Prod.mk.inj stored
    rcases answered with ⟨failed, _⟩ | ⟨one, most, loaded⟩
    · rw [ok] at failed
      cases failed
    · have kept : got.buf = buf := loaded
      rw [kept] at checked same
      split at checked
      · cases checked
      · rename_i equal
        exact ⟨one, most, same.symm, not_not.mp equal⟩
  · rename_i other
    exact absurd (congrArg Prod.fst stored) other

/-- A number that `ReadID` reports is made of the last bytes that it took from the FIFO, 1 to
18 of them, and their fifth is the XOR of the first four. Where the chip has fewer, the bytes
of the request and of the stack take the place of the others. -/
theorem readID_checked (request anticoll : Locals) (state : σ) {cardId : BitVec 32}
    (reported : ((readID request anticoll).run handle state).1 = some cardId) :
    ∃ earlier bytes, (readID request anticoll).taken handle state = earlier ++ bytes ∧
      1 ≤ bytes.length ∧ bytes.length ≤ 18 ∧
      let byte := fun i => if i < bytes.length then bytes.getD i 0#8
        else (anticoll.buf.put 0 [piccAnticoll1, 0x20#8]).byte i
      cardId.toNat = (byte 0).toNat * 2 ^ 24 + (byte 1).toNat * 2 ^ 16 + (byte 2).toNat * 2 ^ 8 +
        (byte 3).toNat ∧
        byte 4 = byte 0 ^^^ byte 1 ^^^ byte 2 ^^^ byte 3 := by
  unfold readID at reported ⊢
  rw [Prog.run_bind] at reported
  rw [taken_bind]
  split at reported
  · rename_i found
    rw [if_pos found, taken_bind, taken_pure, List.append_nil]
    rw [Prog.run_bind, Prog.run_pure] at reported
    split at reported
    · rename_i ok
      refine ⟨_, _, rfl, ?_⟩
      obtain ⟨one, most, same, check⟩ := pcdAnticoll_checked handle anticoll _ (Prod.ext ok rfl)
      refine ⟨one, most, ?_⟩
      have loaded := @Image.byte_load 18 (anticoll.buf.put 0 [piccAnticoll1, 0x20#8]) _ most
      obtain rfl := Option.some.inj ((congrArg (Option.map cardIdOf) same).symm.trans reported)
      intro byte
      have bytes_eq (i : Nat) : byte i = _ := (loaded i).symm
      simp only [bytes_eq]
      rw [snrCheck, field_four] at check
      refine ⟨?_, ?_⟩
      · rw [field_four, cardIdOf_toNat]
      · rw [← check]
        simp
    · cases reported
  · cases reported

end Number

/-- A chip that is done at once, with the bytes still to come from its FIFO: two for the
request, then a number and its check byte. -/
def promptChip : (op : RcOp) → List Byte → op.Res × List Byte
  | .writeRawRC .., left => ((), left)
  | .readRawRC address, left =>
    if address = comIrqReg then (0x30#8, left)
    else if address = fifoLevelReg then (if left.length = 7 then 2#8 else 5#8, left)
    else if address = fifoDataReg then (left.headD 0#8, left.tail)
    else (0#8, left)

/-- A card with a right check byte. -/
theorem readID_checked_card : ∃ earlier bytes : List Byte,
    (readID ⟨.zero 18, 0#8⟩ ⟨.zero 18, 0#8⟩).taken promptChip [4#8, 0#8, 1#8, 2#8, 3#8, 4#8, 4#8] =
      earlier ++ bytes ∧
      1 ≤ bytes.length ∧ bytes.length ≤ 18 ∧
      let byte := fun i => if i < bytes.length then bytes.getD i 0#8
        else ((Image.zero 18).put 0 [piccAnticoll1, 0x20#8]).byte i
      (0x01020304#32).toNat =
        (byte 0).toNat * 2 ^ 24 + (byte 1).toNat * 2 ^ 16 + (byte 2).toNat * 2 ^ 8 +
          (byte 3).toNat ∧
        byte 4 = byte 0 ^^^ byte 1 ^^^ byte 2 ^^^ byte 3 :=
  readID_checked promptChip ⟨.zero 18, 0#8⟩ ⟨.zero 18, 0#8⟩
    [4#8, 0#8, 1#8, 2#8, 3#8, 4#8, 4#8] (by decide)

end WifiAccess
