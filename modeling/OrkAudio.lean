import OrkAudio.Lib.Steps
import OrkAudio.Lib.Extent
import OrkAudio.Lib.Fallible
import OrkAudio.Lib.Buffer
import OrkAudio.Lib.Word
import OrkAudio.Lib.Ring
import OrkAudio.RtpMixer.Model
import OrkAudio.RtpMixer.Moves
import OrkAudio.RtpMixer.Bounds
import OrkAudio.RtpMixer.Pointers
import OrkAudio.RtpMixer.Stereo
import OrkAudio.RtpMixer.Timeline
import OrkAudio.RtpMixer.Emission
import OrkAudio.Lib.OrderedMap
import OrkAudio.IpFragmentation.Model
import OrkAudio.IpFragmentation.Reassembly
import OrkAudio.IpFragmentation.Isolation
import OrkAudio.IpFragmentation.Length
import OrkAudio.Tape.Model
import OrkAudio.Tape.Handover
import OrkAudio.CaptureEvent
import OrkAudio.CapturePort.Tape
import OrkAudio.CapturePort.Model
import OrkAudio.CapturePort.Finalised
import OrkAudio.CapturePort.Expiry
import OrkAudio.CapturePort.PartyRewriting
import OrkAudio.CapturePort.PartyFilter
import OrkAudio.CapturePort.Reported
import OrkAudio.CapturePort.Stages
import OrkAudio.CapturePort.Metadata
import OrkAudio.CapturePort.Segmentation
import OrkAudio.Decoder.Model
import OrkAudio.Decoder.Bounds
import OrkAudio.Decoder.Fresh
import OrkAudio.Decoder.Batch
import OrkAudio.OggOpus.Model
import OrkAudio.OggOpus.Encoding
import OrkAudio.Lib.ByteSearch
import OrkAudio.SipTcp.Model
import OrkAudio.SipTcp.Messages
import OrkAudio.SipTcp.Bursts
import OrkAudio.SipTcp.Delivery
import OrkAudio.VoIp.Config
import OrkAudio.VoIp.Messages
import OrkAudio.VoIp.Session
import OrkAudio.VoIp.Metadata
import OrkAudio.VoIp.Dtmf
import OrkAudio.VoIp.RtpPacket
import OrkAudio.VoIp.Signalling
import OrkAudio.VoIp.Sessions
import OrkAudio.VoIp.Effects
import OrkAudio.VoIp.Sip
import OrkAudio.VoIp.Skinny
import OrkAudio.VoIp.Rtp
import OrkAudio.VoIp.Capture
import OrkAudio.MemSearch
import OrkAudio.Lib.Fifo
import OrkAudio.Lib.Always
import OrkAudio.LiveStream.RingBuffer
import OrkAudio.LiveStream.Filter
import OrkAudio.LiveStream.Frames
import OrkAudio.LiveStream.Sides
import OrkAudio.LiveStream.Bounds
import OrkAudio.LiveStream.Handles
import OrkAudio.StdString
import OrkAudio.Strtol
import OrkAudio.Cidr.DottedQuad
import OrkAudio.Cidr.IpRanges
import OrkAudio.Lib.Escape
import OrkAudio.Serializer.Csv
import OrkAudio.Lib.Lru
import OrkAudio.Lib.Memory
import OrkAudio.LruMap
import OrkAudio.Queues.OrkSemaphore
import OrkAudio.Queues.ThreadSafeQueue
import OrkAudio.Queues.ImmediateProcessing
import OrkAudio.Lib.LittleEndian
import OrkAudio.Lib.FileStream
import OrkAudio.MediaChunkFile.Model
import OrkAudio.MediaChunkFile.RoundTrip
import OrkAudio.MediaChunkFile.WriteErrors
import OrkAudio.Serializer.KeyValue
import OrkAudio.Serializer.Text
import OrkAudio.Serializer.SingleLine
import OrkAudio.Serializer.Url
import OrkAudio.Iax2.Session
import OrkAudio.Iax2.Sessions
import OrkAudio.Iax2.Index
import OrkAudio.Iax2.Accepted
import OrkAudio.Iax2.Timestamps
import OrkAudio.Iax2.Elements
import OrkAudio.Iax2.Trunk
import OrkAudio.Iax2.TrunkSide
import OrkAudio.Iax2.Heard
import OrkAudio.Iax2.Reached
import OrkAudio.Iax2.Reports
import OrkAudio.Iax2.Lockstep
import OrkAudio.Iax2.TrunkRun
import OrkAudio.Iax2.TrunkGap
import OrkAudio.Iax2.TrunkFrame
import OrkAudio.Iax2.MetaTrunk
import OrkAudio.Skinny.Layout
import OrkAudio.Skinny.Parsers
import OrkAudio.Skinny.Texts
import OrkAudio.Skinny.Names
import OrkAudio.Skinny.Scan
import OrkAudio.Skinny.Tokens
import OrkAudio.Skinny.Fields
import OrkAudio.Skinny.Dispatch
import OrkAudio.TcpListener.Model
import OrkAudio.TcpListener.Framing
import OrkAudio.HandlePacket.Model
import OrkAudio.HandlePacket.Decapsulation
import OrkAudio.Reporting.Model
import OrkAudio.Reporting.Delivery
import OrkAudio.Reporting.Receive
import OrkAudio.TapeFileNaming.Model
import OrkAudio.TapeFileNaming.Collision
import OrkAudio.TapeFileNaming.Containment
import OrkAudio.BatchProcessing.Model
import OrkAudio.BatchProcessing.Passes
import OrkAudio.BatchProcessing.Loop
import OrkAudio.BatchProcessing.Complete
import OrkAudio.BatchProcessing.Secondary
import OrkAudio.BatchProcessing.CleanUp
import OrkAudio.VoIp.Aside
import OrkAudio.VoIp.Streams
import OrkAudio.VoIp.Recording
import OrkAudio.VoIp.Mapping
import OrkAudio.VoIp.BothSides
import OrkAudio.VoIp.Remap
import OrkAudio.VoIp.Once
import OrkAudio.VoIp.Continuity
import OrkAudio.VoIp.Hold
import OrkAudio.VoIp.Acts
import OrkAudio.VoIp.Operations
import OrkAudio.VoIp.Runs
import OrkAudio.VoIp.Stopped
import OrkAudio.VoIp.Replaced
import OrkAudio.VoIp.Expired
import OrkAudio.VoIp.Invited
import OrkAudio.Lib.Latest
import OrkAudio.VoIp.BehindNat
import OrkAudio.Lib.Stutter
import OrkAudio.VoIp.Events
import OrkAudio.VoIp.Commands
import OrkAudio.Serializer.Refusal
import OrkAudio.VoIp.UrlExtraction
import OrkAudio.Lib.Lines
import OrkAudio.SipInvite.PayloadMapping
import OrkAudio.SipInvite.FieldSearch
import OrkAudio.SipInvite.Message
import OrkAudio.SipInvite.AudioSection
import OrkAudio.SipInvite.MediaAddress
import OrkAudio.SipInvite.KeyValues
import OrkAudio.SipInvite.HeaderLines
import OrkAudio.SipInvite.StoredValues
import OrkAudio.SipInvite.HeaderValues
import OrkAudio.SipInvite.Exceptions
import OrkAudio.Decoder.Continuous
import OrkAudio.RtpMixer.SideOffset
import OrkAudio.RtpMixer.Contiguous
import OrkAudio.RtpMixer.Milliseconds
import OrkAudio.Lib.Search
import OrkAudio.HttpServer.Model
import OrkAudio.HttpServer.Request
import OrkAudio.Lib.Spans
import OrkAudio.DirectionSelector.Model
import OrkAudio.DirectionSelector.Marks
import OrkAudio.DirectionSelector.AreaCodes
import OrkAudio.UdpListener.Model
import OrkAudio.UdpListener.Frames
import OrkAudio.HandlePacket.Probing
import OrkAudio.SipTcp.Progress
import OrkAudio.Lib.Reads
import OrkAudio.TryRtp.Model
import OrkAudio.TryRtp.Bounds
import OrkAudio.Lib.Walk
import OrkAudio.Rtcp.Model
import OrkAudio.Rtcp.Walks
import OrkAudio.Rtcp.Cname
import OrkAudio.SipNotify.Model
import OrkAudio.SipNotify.Bounds
import OrkAudio.DirectionSelector.AreaCodes
import OrkAudio.Decoder.Throws
import OrkAudio.ActivityDetection.Model
import OrkAudio.ActivityDetection.Exceptions
import OrkAudio.Lib.Links
import OrkAudio.TapeProcessor.Chain
import OrkAudio.TapeProcessor.Pipeline
import OrkAudio.EventStreaming
import OrkAudio.Lib.CInt
import OrkAudio.Decoder.Packets
import OrkAudio.Decoder.G721
import OrkAudio.Decoder.G722
import OrkAudio.Iax2.Frames
import OrkAudio.Iax2.Received
import OrkAudio.SipDialog.Requests
