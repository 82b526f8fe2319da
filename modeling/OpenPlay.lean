import OpenPlay.Airplay.AirPlaySession
import OpenPlay.Airplay.ContentLengths
import OpenPlay.Airplay.Features
import OpenPlay.Airplay.Ntp
import OpenPlay.Airplay.PairingResponse
import OpenPlay.Airplay.RequestHeaders
import OpenPlay.Airplay.Srp
import OpenPlay.Airplay.Tlv8
import OpenPlay.Crypto.Identity
import OpenPlay.Discovery.Record
import OpenPlay.Miracast.BestMode
import OpenPlay.Miracast.ContentLength
import OpenPlay.Miracast.SessionEvents
import OpenPlay.Miracast.UsablePort
import OpenPlay.Pipeline.FrameSample
import OpenPlay.Protocol.FrameSize
import OpenPlay.Receiver.FrameView
import OpenPlay.Receiver.LateClicks
import OpenPlay.Sender.CastStatus
import OpenPlay.Sender.Directory
import OpenPlay.Sender.Distinct
import OpenPlay.Sender.FrameLoop
import OpenPlay.Sender.Representation
import OpenPlay.Sender.Sources
import OpenPlay.Sender.StartCodes
import OpenPlay.Session.Delivery
import OpenPlay.Session.Gates
import OpenPlay.Airplay.Pairing
import OpenPlay.Airplay.Accessory
import OpenPlay.Airplay.PairingRun
import OpenPlay.Airplay.PairedDevices
import OpenPlay.Airplay.PairingCourse
import OpenPlay.Signaling.Server
import OpenPlay.Crypto.KeyFile
import OpenPlay.Crypto.KeyFileLaunch
import OpenPlay.Airplay.Authentication
import OpenPlay.Airplay.AuthenticationCourse
import OpenPlay.Airplay.AuthenticationRun
