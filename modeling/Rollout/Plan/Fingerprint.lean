import Rollout.Digest.Blake3
import Rollout.Plan

/-!
# Fingerprints of plans

Two plans have the same fingerprint when their JSON is the same, and it is the same when they
differ in nothing but secrets that are present in both.
-/

namespace Rollout.Plan

/-- The text of which a fingerprint is the hash. -/
def fingerprintText (p : Plan) : String :=
  String.ofList p.toJson.compact

/-- The fingerprint of a plan. -/
def fingerprint (p : Plan) : String :=
  "blake3:" ++ Blake3.hash p.fingerprintText.toUTF8

end Rollout.Plan
