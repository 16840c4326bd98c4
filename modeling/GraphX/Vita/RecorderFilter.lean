/-
  The system call filter of the recorder (`restrict_recorder_descriptor` of
  `src/vita/recorder.cpp`): a program for the packet filter machine that the kernel runs at
  every system call.

  Main result: `recorder_filtered`, what the program answers for each system call.
-/
import GraphX.Envelope

namespace GraphX.Recorder

/-! ## The machine -/

/-- The instructions of the filter machine that the program is made of: a word is loaded, tested
    or returned.  The distances of a jump count from the next instruction. -/
inductive Insn where
  | load (offset : ℕ)
  | jumpEqual (value : UInt32) (yes no : ℕ)
  | jumpSet (value : UInt32) (yes no : ℕ)
  | ret (value : UInt32)

/-- `seccomp_data`: the words of the number, the architecture, the instruction pointer and the six
    arguments, on a machine where the low word of an argument comes first. -/
structure SeccompData where
  words : Vector UInt32 16

def SeccompData.nr (d : SeccompData) : UInt32 := d.words[0]

def SeccompData.arch (d : SeccompData) : UInt32 := d.words[1]

/-- The low word of an argument. -/
def SeccompData.low (d : SeccompData) (i : Fin 6) : UInt32 := d.words[4 + 2 * i.val]

def SeccompData.word (d : SeccompData) (offset : ℕ) : Option UInt32 :=
  if offset % 4 = 0 then d.words[offset / 4]? else none

/-- Runs the program after `skip` instructions, with `a` in the accumulator.  There is no result
    if it loads a word that is not there, or leaves the program. -/
def exec (d : SeccompData) : List Insn → (skip : ℕ) → (a : UInt32) → Option UInt32
  | [], _, _ => none
  | _ :: rest, skip + 1, a => exec d rest skip a
  | .load offset :: rest, 0, _ => (d.word offset).bind (exec d rest 0)
  | .jumpEqual value yes no :: rest, 0, a => exec d rest (if a = value then yes else no) a
  | .jumpSet value yes no :: rest, 0, a => exec d rest (if a &&& value ≠ 0 then yes else no) a
  | .ret value :: _, 0, _ => some value

/-! ## The program -/

/-- `SECCOMP_RET_KILL_PROCESS` -/
def killed : UInt32 := 0x80000000
/-- `SECCOMP_RET_ERRNO | EPERM` -/
def denied : UInt32 := 0x00050001
/-- `SECCOMP_RET_ALLOW` -/
def allowed : UInt32 := 0x7fff0000

/-- The numbers of the system calls of a machine; `others` are those that are always allowed. -/
structure Platform where
  architecture : UInt32
  write : UInt32
  writev : UInt32
  sendto : UInt32
  fcntl : UInt32
  recvmsg : UInt32
  openat : UInt32
  others : List UInt32
  distinct : decide ([write, writev, sendto, fcntl, recvmsg, openat] ++ others).Nodup = true

/-- The `others`: `read`, `pread64`, `close`, `lseek`, `fstat`, `newfstatat`, `statx`, `mmap`,
    `mprotect`, `munmap`, `brk`, `madvise`, `clock_gettime`, `clock_nanosleep`, `nanosleep`,
    `futex`, `rt_sigaction`, `rt_sigprocmask`, `rt_sigreturn`, `sigaltstack`, `exit`, `exit_group`,
    `getpid`, `gettid`, `getrandom`, `recvfrom`, `getsockopt`, `ppoll`, `sched_yield`, `rseq`,
    `set_robust_list`, `pipe2`, `readlinkat`, `pipe`, `readlink`, `poll`, `restart_syscall`. -/
def x86 : Platform where
  architecture := 0xc000003e
  write := 1
  writev := 20
  sendto := 44
  fcntl := 72
  recvmsg := 47
  openat := 257
  others := [0, 17, 3, 8, 5, 262, 332, 9, 10, 11, 12, 28, 228, 230, 35, 202, 13, 14, 15, 131, 60, 231,
    39, 186, 318, 45, 55, 271, 24, 334, 273, 293, 267, 22, 89, 7, 219]
  distinct := rfl

/-- Has no `pipe`, `readlink` and `poll`. -/
def aarch64 : Platform where
  architecture := 0xc00000b7
  write := 64
  writev := 66
  sendto := 206
  fcntl := 25
  recvmsg := 212
  openat := 56
  others := [63, 67, 57, 62, 80, 79, 291, 222, 226, 215, 214, 233, 113, 115, 101, 98, 134, 135, 139,
    132, 93, 94, 172, 178, 278, 207, 209, 73, 124, 293, 99, 59, 78, 128]
  distinct := rfl

def program (p : Platform) (descriptor : UInt32) : List Insn := List.flatten [
  [.load 4, .jumpEqual p.architecture 1 0, .ret killed, .load 0],
  [p.write, p.writev, p.sendto].flatMap fun number =>
    [.jumpEqual number 0 4, .load 16, .jumpEqual descriptor 0 1, .ret denied, .ret allowed],
  [.jumpEqual p.fcntl 0 5, .load 24, .jumpEqual 3 2 0, .jumpEqual 4 1 0, .ret denied, .ret allowed],
  [.jumpEqual p.recvmsg 0 4, .load 16, .jumpEqual descriptor 1 0, .ret denied, .ret allowed],
  -- O_WRONLY | O_RDWR | O_CREAT | O_TRUNC
  [.jumpEqual p.openat 0 4, .load 32, .jumpSet 0x243 0 1, .ret denied, .ret allowed],
  p.others.flatMap fun number => [.jumpEqual number 0 1, .ret allowed],
  [.ret denied]]

/-- The program that is installed. -/
def restrictRecorderDescriptor (p : Platform) (descriptor : Int32) : Result (List Insn) :=
  if descriptor < 0 then .error (.invalidArgument "invalid recorder descriptor")
  else .ok (program p descriptor.toUInt32)

/-! ## What it answers -/

open List

def Permitted (p : Platform) (descriptor : UInt32) (d : SeccompData) : Prop :=
  (d.nr = p.write ∨ d.nr = p.writev ∨ d.nr = p.sendto) ∧ d.low 0 ≠ descriptor ∨
  d.nr = p.recvmsg ∧ d.low 0 = descriptor ∨
  d.nr = p.fcntl ∧ (d.low 1 = 3 ∨ d.low 1 = 4) ∨
  d.nr = p.openat ∧ d.low 2 &&& 0x243 = 0 ∨
  d.nr ∈ p.others

instance instDecidablePermitted (p : Platform) (descriptor : UInt32) (d : SeccompData) :
    Decidable (Permitted p descriptor d) := inferInstanceAs (Decidable (_ ∨ _))

variable {d : SeccompData} {a number : UInt32} {rest : List Insn}

@[simp] theorem word_nr : d.word 0 = some d.nr := rfl
@[simp] theorem word_arch : d.word 4 = some d.arch := rfl
@[simp] theorem word_low₀ : d.word 16 = some (d.low 0) := rfl
@[simp] theorem word_low₁ : d.word 24 = some (d.low 1) := rfl
@[simp] theorem word_low₂ : d.word 32 = some (d.low 2) := rfl

/-- A system call whose answer is up to one argument. -/
theorem exec_guard {offset : ℕ} {x : UInt32} {test : Insn} {c : Prop} [Decidable c]
    (hword : d.word offset = some x)
    (htest : ∀ rest, exec d (test :: rest) 0 x = exec d rest (if c then 1 else 0) x) :
    exec d (.jumpEqual number 0 4 :: .load offset :: test :: .ret denied :: .ret allowed :: rest) 0 a =
      if a = number then some (if c then allowed else denied) else exec d rest 0 a := by
  by_cases h : a = number
  · rw [exec, if_pos h, if_pos h, exec, hword]
    refine (htest _).trans ?_
    split_ifs <;> rfl
  · simp [exec, h]

theorem exec_fcntl : exec d (.jumpEqual number 0 5 :: .load 24 :: .jumpEqual 3 2 0 ::
      .jumpEqual 4 1 0 :: .ret denied :: .ret allowed :: rest) 0 a =
    if a = number then some (if d.low 1 = 3 ∨ d.low 1 = 4 then allowed else denied)
    else exec d rest 0 a := by
  by_cases h : a = number
  · by_cases hget : d.low 1 = 3
    · simp [exec, h, hget]
    · by_cases hset : d.low 1 = 4
      · simp [exec, h, hset]
      · simp [exec, h, hget, hset]
  · simp [exec, h]

theorem exec_others (others : List UInt32) :
    exec d (others.flatMap (fun n => [.jumpEqual n 0 1, .ret allowed]) ++ [.ret denied]) 0 a =
      some (if a ∈ others then allowed else denied) := by
  induction others with
  | nil => simp [exec]
  | cons n others ih =>
    by_cases h : a = n
    · simp [exec, h]
    · simp [exec, h, ih]

variable (p : Platform) (descriptor : UInt32)

theorem exec_program : exec d (program p descriptor) 0 0 =
    some (if d.arch = p.architecture then if Permitted p descriptor d then allowed else denied
      else killed) := by
  by_cases harch : d.arch = p.architecture
  · have hdistinct := of_decide_eq_true p.distinct
    have hstart : exec d (program p descriptor) 0 0 = exec d ((program p descriptor).drop 4) 0 d.nr := by
      simp [program, exec, harch]
    -- the tests that skip the refusal when they fail
    have hother : ∀ rest, exec d (.jumpEqual descriptor 0 1 :: rest) 0 (d.low 0) =
        exec d rest (if d.low 0 ≠ descriptor then 1 else 0) (d.low 0) := fun rest => by
      rw [exec, ite_not]
    have hflags : ∀ rest, exec d (.jumpSet 0x243 0 1 :: rest) 0 (d.low 2) =
        exec d rest (if d.low 2 &&& 0x243 = 0 then 1 else 0) (d.low 2) := fun rest => by
      rw [exec, ite_not]
    rw [hstart]
    simp only [program, flatten_cons, flatten_nil, flatMap_cons, flatMap_nil, append_nil, cons_append,
      nil_append, drop_succ_cons, drop_zero]
    rw [exec_guard word_low₀ hother, exec_guard word_low₀ hother, exec_guard word_low₀ hother,
      exec_fcntl, exec_guard word_low₀ fun _ => rfl, exec_guard word_low₂ hflags, exec_others,
      if_pos harch]
    unfold Permitted
    grind
  · simp [program, exec, harch]

/-- **The filter enforces the policy.** -/
theorem recorder_filtered {descriptor : Int32} (h : 0 ≤ descriptor) :
    ∃ code, restrictRecorderDescriptor p descriptor = .ok code ∧
      ∀ d, exec d code 0 0 = some (if d.arch = p.architecture then
        if Permitted p descriptor.toUInt32 d then allowed else denied else killed) :=
  ⟨_, if_neg (Int32.not_lt.2 h), fun _ => exec_program p _⟩

theorem recorder_filtered_machines :
    (∃ code, restrictRecorderDescriptor x86 3 = .ok code ∧
      ∀ d, exec d code 0 0 = some (if d.arch = x86.architecture then
        if Permitted x86 (Int32.toUInt32 3) d then allowed else denied else killed)) ∧
    ∃ code, restrictRecorderDescriptor aarch64 3 = .ok code ∧
      ∀ d, exec d code 0 0 = some (if d.arch = aarch64.architecture then
        if Permitted aarch64 (Int32.toUInt32 3) d then allowed else denied else killed) :=
  ⟨recorder_filtered x86 (by decide), recorder_filtered aarch64 (by decide)⟩

end GraphX.Recorder
