import Mathlib.Data.Nat.Digits

/-!
# Decimal text: integers and the local time

The dump task writes integers into its keys and headers with `std::to_string` and with
`operator<<` on a `std::stringstream`: the decimal digits, after a `-` for a negative value.
Lean's `toString` on `Int` gives the same text. Its timestamp column prints the local time
with `Utility::getLocalTimeString`: `strftime` fields and a `%03d` millisecond count. What
reading such text back needs:

* `toDigits_eq` — the digits of `n` are the digits of `n / 10`, then the last digit;
* `toString_int_injective` — the text determines the integer;
* `mem_toString_int` — the text holds only digits and `-`;
* `mem_getLocalTimeString` — the local time holds only digits and `-`, `T`, `:`, `.`.
-/

namespace XpuSmi

namespace Decimal

open Nat

/-! ## The digits of a natural number -/

theorem toDigitsCore_append (fuel n : Nat) (ds : List Char) (h : n < fuel) :
    toDigitsCore 10 fuel n ds = toDigitsCore 10 fuel n [] ++ ds := by
  induction fuel generalizing n ds with
  | zero => omega
  | succ fuel ih =>
    simp only [toDigitsCore]
    split_ifs with hn
    · rfl
    · rw [ih _ _ (by omega), ih (n / 10) [digitChar (n % 10)] (by omega), List.append_assoc]
      rfl

/-- Any fuel above `n` gives the same digits. -/
theorem toDigitsCore_fuel {fuel fuel' n : Nat} (h : n < fuel) (h' : n < fuel') :
    toDigitsCore 10 fuel n [] = toDigitsCore 10 fuel' n [] := by
  induction fuel generalizing fuel' n with
  | zero => omega
  | succ fuel ih =>
    obtain ⟨fuel', rfl⟩ : ∃ f, fuel' = f + 1 := ⟨fuel' - 1, by omega⟩
    simp only [toDigitsCore]
    split_ifs with hn
    · rfl
    · rw [toDigitsCore_append fuel (n / 10) _ (by omega),
        toDigitsCore_append fuel' (n / 10) _ (by omega), @ih fuel' (n / 10) (by omega) (by omega)]

/-- **The digits, one at a time.** The decimal digits of `n` are those of `n / 10`, when it is
not zero, followed by the last digit. -/
theorem toDigits_eq (n : Nat) :
    toDigits 10 n =
      (if n / 10 = 0 then [] else toDigits 10 (n / 10)) ++ [digitChar (n % 10)] := by
  rw [toDigits, toDigitsCore]
  split_ifs with hn
  · rfl
  · rw [toDigitsCore_append n (n / 10) _ (by omega), toDigits,
      @toDigitsCore_fuel n (n / 10 + 1) (n / 10) (by omega) (by omega)]

theorem digitChar_inj : ∀ a b : Fin 10, digitChar a = digitChar b → a = b := by decide

theorem isDigit_digitChar : ∀ a : Fin 10, (digitChar a).isDigit := by decide

theorem toDigits_ne_nil (n : Nat) : toDigits 10 n ≠ [] := by
  rw [toDigits_eq]; simp

/-- Every character of the digits is a decimal digit. -/
theorem isDigit_of_mem_toDigits {n : Nat} {c : Char} (h : c ∈ toDigits 10 n) : c.isDigit := by
  induction n using Nat.strong_induction_on with
  | _ n ih =>
    rw [toDigits_eq, List.mem_append, List.mem_singleton] at h
    rcases h with h | rfl
    · split_ifs at h with hn
      · cases h
      · exact ih _ (by omega) h
    · exact isDigit_digitChar ⟨n % 10, Nat.mod_lt _ (by omega)⟩

/-- The digits determine the number. -/
theorem toDigits_injective : Function.Injective (toDigits 10) := by
  intro a
  induction a using Nat.strong_induction_on with
  | _ a ih =>
    intro b h
    rw [toDigits_eq a, toDigits_eq b] at h
    obtain ⟨hhead, hlast⟩ := List.append_inj' h rfl
    have hmod : a % 10 = b % 10 := congrArg Fin.val <|
      digitChar_inj ⟨a % 10, Nat.mod_lt _ (by omega)⟩ ⟨b % 10, Nat.mod_lt _ (by omega)⟩
        (List.singleton_inj.mp hlast)
    have hdiv : a / 10 = b / 10 := by
      split_ifs at hhead with ha hb hb
      · omega
      · exact absurd hhead.symm (toDigits_ne_nil _)
      · exact absurd hhead (toDigits_ne_nil _)
      · exact ih _ (by omega) hhead
    omega

/-! ## The text of an integer -/

theorem toString_int_data (n : Int) :
    (toString n).data =
      match n with
      | .ofNat m => toDigits 10 m
      | .negSucc m => '-' :: toDigits 10 (m + 1) := by
  cases n <;> rfl

/-- The text holds only decimal digits and `-`. -/
theorem mem_toString_int {n : Int} {c : Char} (h : c ∈ (toString n).data) :
    c = '-' ∨ c.isDigit := by
  rw [toString_int_data] at h
  split at h
  · exact .inr (isDigit_of_mem_toDigits h)
  · rcases List.mem_cons.mp h with rfl | h
    · exact .inl rfl
    · exact .inr (isDigit_of_mem_toDigits h)

/-- **The text determines the integer.** -/
theorem toString_int_injective : Function.Injective (toString : Int → String) := by
  intro a b h
  have h := congrArg String.data h
  rw [toString_int_data, toString_int_data] at h
  have hminus : ¬('-' : Char).isDigit := by decide
  cases a <;> cases b <;> dsimp only at h
  · rw [toDigits_injective h]
  · exact absurd (isDigit_of_mem_toDigits (h ▸ List.mem_cons_self _ _)) hminus
  · exact absurd (isDigit_of_mem_toDigits (h.symm ▸ List.mem_cons_self _ _)) hminus
  · rw [Nat.succ.inj (toDigits_injective (List.cons.inj h).2)]

/-! ## Zero-padded fields -/

/-- `printf("%0<width>d", n)` for `n ≥ 0`: the digits of `n`, after zeros up to `width`. -/
def padZero (width n : Nat) : String :=
  ⟨List.replicate (width - (toDigits 10 n).length) '0' ++ toDigits 10 n⟩

theorem mem_padZero {width n : Nat} {c : Char} (h : c ∈ (padZero width n).data) : c.isDigit := by
  rcases List.mem_append.mp h with h | h
  · rw [List.eq_of_mem_replicate h]; rfl
  · exact isDigit_of_mem_toDigits h

end Decimal

namespace Utility

open Decimal

/-- `struct tm`, by the fields `%F` and `%T` print: the year (`tm_year + 1900`), the month
(`tm_mon + 1`), the day of the month, the hour, the minute and the second. -/
structure Tm where
  year : Int
  mon : Nat
  mday : Nat
  hour : Nat
  min : Nat
  sec : Nat
  deriving DecidableEq, Repr

/-- `strftime` with `%F`, that is `%Y-%m-%d`. -/
def strftimeDate (tm : Tm) : String :=
  toString tm.year ++ "-" ++ padZero 2 tm.mon ++ "-" ++ padZero 2 tm.mday

/-- `strftime` with `%T`, that is `%H:%M:%S`. -/
def strftimeTime (tm : Tm) : String :=
  padZero 2 tm.hour ++ ":" ++ padZero 2 tm.min ++ ":" ++ padZero 2 tm.sec

/-- `Utility::getLocalTimeString(t, showData)`: the local time of the second `(long)t / 1000`,
as `%FT%T` or `%T`, then `.` and the millisecond `t % 1000` as `%03d`; the empty string when
`localtime` fails. `localtime` is the C library's conversion to local time. -/
def getLocalTimeString (localtime : Int → Option Tm) (t : BitVec 64) (showData : Bool) :
    String :=
  match localtime (t.toInt.tdiv 1000) with
  | none => ""
  | some tm =>
    (if showData then strftimeDate tm ++ "T" ++ strftimeTime tm else strftimeTime tm) ++ "." ++
      padZero 3 (t.toNat % 1000)

/-- The characters of a local time: digits and the separators of `%F`, `%T` and the
milliseconds. -/
def TimeChar (c : Char) : Prop := c.isDigit ∨ c = '-' ∨ c = 'T' ∨ c = ':' ∨ c = '.'

instance : DecidablePred TimeChar := fun _ => inferInstanceAs (Decidable (_ ∨ _))

/-- The local time holds only digits and the separators `-`, `T`, `:` and `.`. -/
theorem timeChar_getLocalTimeString (localtime : Int → Option Tm) (t : BitVec 64)
    (showData : Bool) : ∀ c ∈ (getLocalTimeString localtime t showData).data, TimeChar c := by
  have hpad : ∀ w n, ∀ c ∈ (padZero w n).data, TimeChar c :=
    fun _ _ _ h => .inl (mem_padZero h)
  unfold getLocalTimeString
  split
  · simp
  · rename_i tm _
    have hyear : ∀ c ∈ (toString tm.year).data, TimeChar c := fun _ h => by
      rcases mem_toString_int h with h | h
      · exact .inr (.inl h)
      · exact .inl h
    split_ifs <;>
      simp only [strftimeDate, strftimeTime, String.data_append, List.forall_mem_append,
        and_assoc]
    · exact ⟨hyear, by decide, hpad _ _, by decide, hpad _ _, by decide, hpad _ _, by decide,
        hpad _ _, by decide, hpad _ _, by decide, hpad _ _⟩
    · exact ⟨hpad _ _, by decide, hpad _ _, by decide, hpad _ _, by decide, hpad _ _⟩

end Utility

end XpuSmi
