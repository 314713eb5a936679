import Mathlib.Logic.Function.Basic
import VyuhHmi.Models

/-!
# Brute-force protection

Failed login attempts are counted for each username, with the time of the first failure.
-/

namespace VyuhHmi

/-- Tracks failed login attempts per username: the count and the time of the first failure. -/
abbrev LoginAttempts := String → Option (UInt32 × Instant)

/-- Max failed login attempts before lockout. -/
def maxLoginAttempts : UInt32 := 5

/-- Lockout duration after too many failed attempts. -/
def lockoutDurationSecs : ℕ := 900

/-- `Instant::elapsed`, in whole seconds. -/
def elapsedSecs (since now : Instant) : ℕ := (now - since) / nanosPerSecond

/-- Check if a username is currently locked out due to failed attempts.  A lockout that has expired
is forgotten. -/
def checkLoginThrottle (attempts : LoginAttempts) (username : String) (now : Instant) :
    LoginAttempts × Except String Unit :=
  match attempts username with
  | some (count, firstFailure) =>
      if maxLoginAttempts ≤ count then
        let elapsed := elapsedSecs firstFailure now
        if elapsed < lockoutDurationSecs then
          (attempts, .error ("Account locked due to " ++ toString count.toNat ++
            " failed attempts. Try again in " ++ toString (lockoutDurationSecs - elapsed) ++
            " seconds."))
        else (Function.update attempts username none, .ok ())
      else (attempts, .ok ())
  | none => (attempts, .ok ())

/-- Record a failed login attempt. -/
def recordFailedLogin (attempts : LoginAttempts) (username : String) (now : Instant) :
    LoginAttempts :=
  let entry := (attempts username).getD (0, now)
  let count := entry.1 + 1
  Function.update attempts username (some (count, if count = 1 then now else entry.2))

/-- Clear failed attempts after successful login. -/
def clearFailedLogin (attempts : LoginAttempts) (username : String) : LoginAttempts :=
  Function.update attempts username none

end VyuhHmi
