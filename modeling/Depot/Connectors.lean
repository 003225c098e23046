import Depot.Azure.Manager
import Depot.Swift.Rest

set_option autoImplicit false

/-!
# Connections of this build

A build without the libraries for S3 and Google Cloud cannot connect to them: the attempt fails at
once, and no other call follows. Azure and Swift are reached over HTTP.

## Main definitions

* `Connectors.s3`, `Connectors.gcs` — the answers to calls in such a build.
* `Connectors.answer` — the program for each call to the world.
-/

namespace Depot.Connectors

/-- The backend is not part of the build. -/
def unavailable (backend : Backend) (feature : String) : Error :=
  .backendUnavailable backend ("built without the \x60" ++ feature ++ "\x60 feature")

/-- S3 is not part of the build. -/
def withoutS3 : Error := unavailable .s3 "aws"

/-- Google Cloud is not part of the build. -/
def withoutGcs : Error := unavailable .gcs "gcp"

/-- The answer to each call to S3. -/
def s3 : (c : S3.Call) → S3.Answer c
  | .connect _ _ => .error withoutS3
  | .headBucket _ => .error withoutS3
  | .createBucket _ _ => .error withoutS3
  | .putPublicAccessBlock _ => .error withoutS3
  | .putBucketTagging _ _ => .error withoutS3
  | .putBucketEncryption _ _ => .error withoutS3
  | .putAbortRule _ _ _ => .error withoutS3
  | .listVersions _ _ => .error withoutS3
  | .deleteObjects _ _ => .error withoutS3
  | .deleteBucket _ => .error withoutS3

/-- The answer to each call to Google Cloud. -/
def gcs : (c : Gcs.Call) → Gcs.Answer c
  | .connect _ _ => .error withoutGcs
  | .bucketPresence _ => .error withoutGcs
  | .createBucket _ _ _ => .error withoutGcs
  | .preventPublicAccess _ => .error withoutGcs
  | .setLabels _ _ => .error withoutGcs
  | .setDefaultKey _ _ => .error withoutGcs
  | .listObjects _ _ => .error withoutGcs
  | .deleteObject _ _ => .error withoutGcs
  | .deleteBucket _ => .error withoutGcs
  | .listEffectiveTags _ _ => .error withoutGcs
  | .createBinding _ _ => .error withoutGcs

/-- The connections to the clouds that are reached over HTTP. -/
structure Open where
  /-- The connection to Azure. -/
  azure : Option Azure.Connection := none
  /-- The connection to Swift. -/
  swift : Option Swift.Rest.Connection := none
  deriving Repr, DecidableEq, Inhabited

/-- The program for each call to the world. -/
def answer (s : Azure.Manager.Settings) :
    (c : World.Call) → Open → Prog World (World.Answer c × Open)
  | .s3 c, k => .pure (s3 c, k)
  | .gcs c, k => .pure (gcs c, k)
  | .azure c, k =>
    (Azure.Manager.answer s c k.azure).bind fun (r, azure) => .pure (r, { k with azure })
  | .swift c, k => (Swift.Rest.answer c k.swift).bind fun (r, swift) => .pure (r, { k with swift })
  | c, k => (Prog.perform (I := World) c).bind fun r => .pure (r, k)

end Depot.Connectors
