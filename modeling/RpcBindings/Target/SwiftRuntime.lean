import RpcBindings.Text.Newline

/-! The support file that generated Swift code runs on. -/
namespace RpcBindings.Target

def swiftRuntime : String := Text.ofLines [
  "import Foundation",
  "#if canImport(Darwin)",
  "import Darwin",
  "#endif",
  "",
  "// MARK: - Constants",
  "",
  "private let protocolVersion: UInt8 = 1",
  "private let frameTypeUnary: UInt8 = 0",
  "private let frameTypeStreamChunk: UInt8 = 1",
  "private let frameTypeStreamEnd: UInt8 = 2",
  "private let frameTypeError: UInt8 = 3",
  "private let headerSize = 14",
  "",
  "// MARK: - Frame",
  "",
  "struct Frame \x7b",
  "    let version: UInt8",
  "    let requestId: UInt32",
  "    let frameType: UInt8",
  "    let method: String",
  "    let payload: Data",
  "\x7d",
  "",
  "func encodeFrame(requestId: UInt32, frameType: UInt8, method: String, payload: Data) -> Data \x7b",
  "    let methodBytes = Array(method.utf8)",
  "    let total = headerSize + methodBytes.count + payload.count",
  "    var buffer = Data(capacity: total)",
  "",
  "    buffer.append(protocolVersion)",
  "    var rid = requestId.bigEndian",
  "    buffer.append(Data(bytes: &rid, count: 4))",
  "    buffer.append(frameType)",
  "    var mlen = UInt32(methodBytes.count).bigEndian",
  "    buffer.append(Data(bytes: &mlen, count: 4))",
  "    buffer.append(contentsOf: methodBytes)",
  "    var plen = UInt32(payload.count).bigEndian",
  "    buffer.append(Data(bytes: &plen, count: 4))",
  "    buffer.append(payload)",
  "",
  "    return buffer",
  "\x7d",
  "",
  "// MARK: - FrameReader",
  "",
  "class FrameReader \x7b",
  "    private var buffer = Data()",
  "    private var consumed = 0",
  "",
  "    func add(_ chunk: Data) \x7b",
  "        buffer.append(chunk)",
  "    \x7d",
  "",
  "    func tryReadFrame() -> Frame? \x7b",
  "        let available = buffer.count - consumed",
  "",
  "        guard available >= headerSize else \x7b return nil \x7d",
  "",
  "        let start = consumed",
  "        let version = buffer[start]",
  "        let requestId = buffer.readUInt32(at: start + 1)",
  "        let frameType = buffer[start + 5]",
  "        let methodLen = Int(buffer.readUInt32(at: start + 6))",
  "",
  "        let neededForPayloadLen = headerSize + methodLen",
  "        guard available >= neededForPayloadLen else \x7b return nil \x7d",
  "",
  "        let payloadLen = Int(buffer.readUInt32(at: start + 10 + methodLen))",
  "        let totalLen = neededForPayloadLen + payloadLen",
  "        guard available >= totalLen else \x7b return nil \x7d",
  "",
  "        let methodStart = start + 10",
  "        let method = String(data: buffer[methodStart..<(methodStart + methodLen)], encoding: .utf8) ?? \"\"",
  "        let payloadStart = start + neededForPayloadLen",
  "        let payload = Data(buffer[payloadStart..<(payloadStart + payloadLen)])",
  "",
  "        consumed += totalLen",
  "        return Frame(version: version, requestId: requestId, frameType: frameType, method: method, payload: payload)",
  "    \x7d",
  "",
  "    func compact() \x7b",
  "        guard consumed > 0 else \x7b return \x7d",
  "        buffer = Data(buffer[consumed...])",
  "        consumed = 0",
  "    \x7d",
  "\x7d",
  "",
  "private extension Data \x7b",
  "    func readUInt32(at offset: Int) -> UInt32 \x7b",
  "        var value: UInt32 = 0",
  "        _ = Swift.withUnsafeMutableBytes(of: &value) \x7b dest in",
  "            self.copyBytes(to: dest, from: offset..<(offset + 4))",
  "        \x7d",
  "        return UInt32(bigEndian: value)",
  "    \x7d",
  "\x7d",
  "",
  "// MARK: - Exception",
  "",
  "struct KalamException: Error, CustomStringConvertible \x7b",
  "    let method: String",
  "    let message: String",
  "",
  "    var description: String \x7b \"KalamException(\\(method)): \\(message)\" \x7d",
  "\x7d",
  "",
  "private func checkError(_ frame: Frame) throws \x7b",
  "    if frame.frameType == frameTypeError \x7b",
  "        throw KalamException(method: frame.method, message: String(data: frame.payload, encoding: .utf8) ?? \"\")",
  "    \x7d",
  "\x7d",
  "",
  "// MARK: - Client",
  "",
  "final class Kalam \x7b",
  "    static let shared = Kalam()",
  "    private init() \x7b\x7d",
  "",
  "    private var socketPath: String?",
  "    private var fd: Int32 = -1",
  "    private var nextRequestId: UInt32 = 1",
  "    private let lock = NSLock()",
  "    private let readQueue = DispatchQueue(label: \"com.kalam.read\", qos: .utility)",
  "    private var pendingCalls: [UInt32: (Result<Frame, Error>) -> Void] = [:]",
  "    private var pendingStreams: [UInt32: StreamCallbacks] = [:]",
  "    private var reading = false",
  "",
  "    private struct StreamCallbacks \x7b",
  "        let onChunk: (Frame) -> Void",
  "        let onEnd: (Error?) -> Void",
  "    \x7d",
  "",
  "    func useSockets(_ path: String) \x7b",
  "        disconnect()",
  "        socketPath = path",
  "    \x7d",
  "",
  "    private func connect() throws \x7b",
  "        guard let path = socketPath else \x7b",
  "            fatalError(\"Kalam not initialized. Call useSockets() first.\")",
  "        \x7d",
  "",
  "        let fd = socket(AF_UNIX, SOCK_STREAM, 0)",
  "        guard fd >= 0 else \x7b throw POSIXError(.init(rawValue: errno) ?? .ENOENT) \x7d",
  "",
  "        var addr = sockaddr_un()",
  "        addr.sun_family = sa_family_t(AF_UNIX)",
  "        let pathBytes = path.utf8CString",
  "        withUnsafeMutablePointer(to: &addr.sun_path) \x7b ptr in",
  "            ptr.withMemoryRebound(to: CChar.self, capacity: 104) \x7b dest in",
  "                for (i, byte) in pathBytes.enumerated() \x7b",
  "                    dest[i] = byte",
  "                \x7d",
  "            \x7d",
  "        \x7d",
  "",
  "        let addrLen = socklen_t(MemoryLayout<sockaddr_un>.size)",
  "        let result = withUnsafePointer(to: &addr) \x7b ptr in",
  "            ptr.withMemoryRebound(to: sockaddr.self, capacity: 1) \x7b sockPtr in",
  "                Darwin.connect(fd, sockPtr, addrLen)",
  "            \x7d",
  "        \x7d",
  "        guard result == 0 else \x7b",
  "            Darwin.close(fd)",
  "            throw POSIXError(.init(rawValue: errno) ?? .ECONNREFUSED)",
  "        \x7d",
  "",
  "        self.fd = fd",
  "        startReadLoop()",
  "    \x7d",
  "",
  "    private func startReadLoop() \x7b",
  "        let fd = self.fd",
  "        reading = true",
  "        readQueue.async \x7b [weak self] in",
  "            let reader = FrameReader()",
  "            let buf = UnsafeMutablePointer<UInt8>.allocate(capacity: 4096)",
  "            defer \x7b buf.deallocate() \x7d",
  "",
  "            while self?.reading == true \x7b",
  "                let n = Darwin.read(fd, buf, 4096)",
  "                if n <= 0 \x7b break \x7d",
  "                reader.add(Data(bytes: buf, count: n))",
  "",
  "                while let frame = reader.tryReadFrame() \x7b",
  "                    reader.compact()",
  "                    self?.dispatch(frame)",
  "                \x7d",
  "            \x7d",
  "            self?.disconnect()",
  "        \x7d",
  "    \x7d",
  "",
  "    private func dispatch(_ frame: Frame) \x7b",
  "        lock.lock()",
  "        let id = frame.requestId",
  "",
  "        if let completion = pendingCalls.removeValue(forKey: id) \x7b",
  "            lock.unlock()",
  "            completion(.success(frame))",
  "            return",
  "        \x7d",
  "",
  "        if let callbacks = pendingStreams[id] \x7b",
  "            if frame.frameType == frameTypeStreamEnd \x7b",
  "                pendingStreams.removeValue(forKey: id)",
  "                lock.unlock()",
  "                callbacks.onEnd(nil)",
  "            \x7d else if frame.frameType == frameTypeError \x7b",
  "                pendingStreams.removeValue(forKey: id)",
  "                lock.unlock()",
  "                let err = KalamException(",
  "                    method: frame.method,",
  "                    message: String(data: frame.payload, encoding: .utf8) ?? \"\"",
  "                )",
  "                callbacks.onEnd(err)",
  "            \x7d else \x7b",
  "                lock.unlock()",
  "                callbacks.onChunk(frame)",
  "            \x7d",
  "            return",
  "        \x7d",
  "",
  "        lock.unlock()",
  "    \x7d",
  "",
  "    private func ensureConnected() throws \x7b",
  "        if fd < 0 \x7b try connect() \x7d",
  "    \x7d",
  "",
  "    private func sendFrame(_ data: Data) \x7b",
  "        data.withUnsafeBytes \x7b ptr in",
  "            _ = Darwin.write(self.fd, ptr.baseAddress!, data.count)",
  "        \x7d",
  "    \x7d",
  "",
  "    // MARK: Callback API (iOS 13+)",
  "",
  "    func call(_ method: String, _ payload: Data, completion: @escaping (Result<Data, Error>) -> Void) \x7b",
  "        do \x7b",
  "            try ensureConnected()",
  "        \x7d catch \x7b",
  "            completion(.failure(error))",
  "            return",
  "        \x7d",
  "",
  "        lock.lock()",
  "        let requestId = nextRequestId",
  "        nextRequestId += 1",
  "        lock.unlock()",
  "",
  "        let frameData = encodeFrame(requestId: requestId, frameType: frameTypeUnary, method: method, payload: payload)",
  "",
  "        lock.lock()",
  "        pendingCalls[requestId] = \x7b result in",
  "            switch result \x7b",
  "            case .success(let frame):",
  "                do \x7b",
  "                    try checkError(frame)",
  "                    completion(.success(frame.payload))",
  "                \x7d catch \x7b",
  "                    completion(.failure(error))",
  "                \x7d",
  "            case .failure(let error):",
  "                completion(.failure(error))",
  "            \x7d",
  "        \x7d",
  "        lock.unlock()",
  "        sendFrame(frameData)",
  "    \x7d",
  "",
  "    func stream(_ method: String, _ payload: Data, onChunk: @escaping (Data) -> Void, onEnd: @escaping (Error?) -> Void) \x7b",
  "        do \x7b",
  "            try ensureConnected()",
  "        \x7d catch \x7b",
  "            onEnd(error)",
  "            return",
  "        \x7d",
  "",
  "        lock.lock()",
  "        let requestId = nextRequestId",
  "        nextRequestId += 1",
  "        lock.unlock()",
  "",
  "        let frameData = encodeFrame(requestId: requestId, frameType: frameTypeUnary, method: method, payload: payload)",
  "",
  "        lock.lock()",
  "        pendingStreams[requestId] = StreamCallbacks(",
  "            onChunk: \x7b frame in",
  "                do \x7b",
  "                    try checkError(frame)",
  "                    onChunk(frame.payload)",
  "                \x7d catch \x7b",
  "                    onEnd(error)",
  "                \x7d",
  "            \x7d,",
  "            onEnd: onEnd",
  "        )",
  "        lock.unlock()",
  "        sendFrame(frameData)",
  "    \x7d",
  "",
  "    func disconnect() \x7b",
  "        reading = false",
  "        if fd >= 0 \x7b",
  "            Darwin.close(fd)",
  "            fd = -1",
  "        \x7d",
  "        lock.lock()",
  "        let calls = pendingCalls",
  "        let streams = pendingStreams",
  "        pendingCalls.removeAll()",
  "        pendingStreams.removeAll()",
  "        lock.unlock()",
  "",
  "        for (_, completion) in calls \x7b",
  "            completion(.failure(KalamException(method: \"\", message: \"Connection lost\")))",
  "        \x7d",
  "        for (_, callbacks) in streams \x7b",
  "            callbacks.onEnd(KalamException(method: \"\", message: \"Connection lost\"))",
  "        \x7d",
  "    \x7d",
  "\x7d",
  "",
  "// MARK: - Server",
  "",
  "protocol ServiceRouter \x7b",
  "    func handle(method: String, payload: Data, sink: ResponseSink)",
  "\x7d",
  "",
  "final class ResponseSink \x7b",
  "    private let fd: Int32",
  "    private let requestId: UInt32",
  "    private let method: String",
  "",
  "    init(fd: Int32, requestId: UInt32, method: String) \x7b",
  "        self.fd = fd",
  "        self.requestId = requestId",
  "        self.method = method",
  "    \x7d",
  "",
  "    func sendUnary(_ payload: Data) \x7b",
  "        send(frameType: frameTypeUnary, payload: payload)",
  "    \x7d",
  "",
  "    func sendChunk(_ payload: Data) \x7b",
  "        send(frameType: frameTypeStreamChunk, payload: payload)",
  "    \x7d",
  "",
  "    func sendEnd() \x7b",
  "        send(frameType: frameTypeStreamEnd, payload: Data())",
  "    \x7d",
  "",
  "    func sendError(_ message: String) \x7b",
  "        send(frameType: frameTypeError, payload: Data(message.utf8))",
  "    \x7d",
  "",
  "    private func send(frameType: UInt8, payload: Data) \x7b",
  "        let data = encodeFrame(requestId: requestId, frameType: frameType, method: method, payload: payload)",
  "        data.withUnsafeBytes \x7b ptr in",
  "            _ = Darwin.write(fd, ptr.baseAddress!, data.count)",
  "        \x7d",
  "    \x7d",
  "\x7d",
  "",
  "final class KalamServer \x7b",
  "    static let shared = KalamServer()",
  "    private init() \x7b\x7d",
  "",
  "    private var serverFd: Int32 = -1",
  "    private let acceptQueue = DispatchQueue(label: \"com.kalam.accept\", qos: .utility)",
  "    private let clientQueue = DispatchQueue(label: \"com.kalam.clients\", qos: .utility, attributes: .concurrent)",
  "    private var listening = false",
  "",
  "    func serve(_ path: String, _ router: ServiceRouter) \x7b",
  "        unlink(path)",
  "",
  "        let fd = socket(AF_UNIX, SOCK_STREAM, 0)",
  "        guard fd >= 0 else \x7b fatalError(\"Failed to create socket\") \x7d",
  "",
  "        var addr = sockaddr_un()",
  "        addr.sun_family = sa_family_t(AF_UNIX)",
  "        let pathBytes = path.utf8CString",
  "        withUnsafeMutablePointer(to: &addr.sun_path) \x7b ptr in",
  "            ptr.withMemoryRebound(to: CChar.self, capacity: 104) \x7b dest in",
  "                for (i, byte) in pathBytes.enumerated() \x7b",
  "                    dest[i] = byte",
  "                \x7d",
  "            \x7d",
  "        \x7d",
  "",
  "        let addrLen = socklen_t(MemoryLayout<sockaddr_un>.size)",
  "        _ = withUnsafePointer(to: &addr) \x7b ptr in",
  "            ptr.withMemoryRebound(to: sockaddr.self, capacity: 1) \x7b sockPtr in",
  "                Darwin.bind(fd, sockPtr, addrLen)",
  "            \x7d",
  "        \x7d",
  "",
  "        Darwin.listen(fd, 5)",
  "        serverFd = fd",
  "        listening = true",
  "",
  "        print(\"Kalam server listening on \\(path)\")",
  "",
  "        acceptQueue.async \x7b [weak self] in",
  "            while self?.listening == true \x7b",
  "                let clientFd = Darwin.accept(fd, nil, nil)",
  "                if clientFd < 0 \x7b break \x7d",
  "                self?.clientQueue.async \x7b",
  "                    self?.handleClient(clientFd, router)",
  "                \x7d",
  "            \x7d",
  "        \x7d",
  "    \x7d",
  "",
  "    private func handleClient(_ clientFd: Int32, _ router: ServiceRouter) \x7b",
  "        let reader = FrameReader()",
  "        let buf = UnsafeMutablePointer<UInt8>.allocate(capacity: 4096)",
  "        defer \x7b",
  "            buf.deallocate()",
  "            Darwin.close(clientFd)",
  "        \x7d",
  "",
  "        while true \x7b",
  "            let n = Darwin.read(clientFd, buf, 4096)",
  "            if n <= 0 \x7b break \x7d",
  "            reader.add(Data(bytes: buf, count: n))",
  "",
  "            while let request = reader.tryReadFrame() \x7b",
  "                reader.compact()",
  "                let sink = ResponseSink(fd: clientFd, requestId: request.requestId, method: request.method)",
  "                router.handle(method: request.method, payload: request.payload, sink: sink)",
  "            \x7d",
  "        \x7d",
  "    \x7d",
  "",
  "    func close() \x7b",
  "        listening = false",
  "        if serverFd >= 0 \x7b",
  "            Darwin.close(serverFd)",
  "            serverFd = -1",
  "        \x7d",
  "    \x7d",
  "\x7d"]

end RpcBindings.Target
