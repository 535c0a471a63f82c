import LibreAgent.Wire.RequestRoundTrip
import LibreAgent.Wire.ReplyRoundTrip
import LibreAgent.Wire.EventRoundTrip
import LibreAgent.Wire.RecvFrame
import LibreAgent.Config.Interference
import LibreAgent.Util.CallerLabel
import LibreAgent.Trust.ImportStep
import LibreAgent.Trust.TornReplace
import LibreAgent.Pkcs11.LeaseQueries
import LibreAgent.Pkcs11.Revocation
import LibreAgent.Pkcs11.LeaseHistory
import LibreAgent.Operations.Abandonment
import LibreAgent.Operations.ClientLoss
import LibreAgent.Operations.Progress
import LibreAgent.Operations.Watchdog
import LibreAgent.Operations.PromptCancel
import LibreAgent.Operations.RateLimiter
import LibreAgent.Operations.CardSessionHolder
import LibreAgent.Cache.CardRemoval
import LibreAgent.Cache.CredentialIds
import LibreAgent.Pkcs11Agent.LoginToken
import LibreAgent.Pkcs11Agent.SessionLaws
import LibreAgent.Pkcs11Agent.DerivedKeys
import LibreAgent.Pkcs11Agent.Cursors
import LibreAgent.Pkcs11Agent.ObjectHandles
import LibreAgent.Client.RequestAnswers
import LibreAgent.Client.RegistryConvergence
import LibreAgent.Presence.Agreement
import LibreAgent.Pkcs11Agent.Refresh
import LibreAgent.Pkcs11Agent.Mechanisms
import LibreAgent.Pkcs11Agent.EcEncoding
import LibreAgent.Pkcs11Agent.SignProtocol
import LibreAgent.Wire.Deterministic
import LibreAgent.Util.DerLength
