import SyntaxGraph.Text.Encoding.Cells

/-!
# Japanese character sets

The cells of the rows of JIS X 0208 and JIS X 0212, 94 to a row, and the characters by which
Windows differs from the former.
-/
namespace SyntaxGraph.Text

def packedJis0208 : Packed :=
  ⟨16159, "fPjzUjj>HRBWwC$a#ӌRhǍ:oEΉT`K$6|aF8@ͻϻpdêb?Ex)~h8T.H#wȇʅj$CE<ŧsvϪ^S#6l'H_Pe9u.r<E=uSg=O/fř
*Z0Ygc!=6[I[Ag;AaԊ;Һ7PN#?h7yoO.'>'u/a$.!ö/?.D)v|jZN.HcjӚ[e`]<I:&0ԍCXVPXv9p˔V`7'mqMc&Șd!1Rr/7Ʀ1r3p1OQ
'y=b|`CerO(ff]PV5&(Hf1_b$D(TQaTƛba[lN4Ư+eSx*Bˆ%;)wŠA(вWK/(JՆDns2Ի|G[2ՕUci6q&akB(/oV#T(yƐLL=*?N)ëBayg
9ҔC`Ի6Mx^*WfiTOCYpiSHAmUd7:q8l$r=,SmzP#DU8ry5I?s3;qS@VVuuzƀb˺m5TRKǌQlu&TYӤě3/tvsF˞T2fXYMW0NR.ёW,34F~
?K6G.@Sek*WUɹh_ҩf҄U`uQy.x4ɫ$~ebjk>`wRɼhyIϳJ4=n+eS.0cǡĲF2W5zN*yQK_iHNTFn4)ùłRҤǐ,Rvǆ)*cդekjl85.˷'g7Da?
X,tYe/8vr+CG7Y;YBˑ$N`DKkʹaPB><Cȕo6k,o%=ShE!F(KVW$tA`Mb3(;w$COB@vK$oI#ogQ>%k+Z^;k(Aw$.s#ӊ0~3f#ym^zƶ^B
NMˮBQƋuG(LFȵӣ78D<IGD)Bśeцhz?Hgԏ(rՈKf;4#Tȟ~5gvpPT#ȹN~+bW4|dr?1*i:@KT@ddŃ9C<<'r0:@%J*&UƅAvYfW+Zd_._Gyj
D1ΪXNQjĄ=a*tN`*1,9҂ϧo:x~p&UQ9]zhrջk_˯,baON!TAðнb])b=VŜ;|llu/QRжxN4z|ϔ3uȈj/ŖO%~sJz,m|%Ѽ^]wL0x5d9`~y>A
oL9QӞmńLz6;V4KiAaqb|<yJxr1%MZN|Hz#d'î5J`A)iV(mϟBǲEy~2&մΡӔaUH?>Wȅ@гÆ[ˉl:(T9kDBDI>W&>c8'f&+!5T<tzz|8`#
4ƃOH3d'?к+_ʋXSӿc5>fmX$Շj%^Ya%MЀ7V.΍bbcY32:8Ġāo:8zm6$E.|Eϸ8_E.nqh??JnLJhMNf;ϸ1~q(I*KfE'dŝU0Yί$?WAL*8ˆ
lbhʊ1u(u7kKvun2*>.C;9U6gӓ*D,ϴɣo`g0SRP?vT'S|=M+*%81ʃPşe*RY&c?oǑ[ɦӻdhͻu]Bԋil('icQgy?s2yΝdk×IB'kWh(!W(#
]oisԧ$~(s?Ŝ!;!!hj.9&|Uk$ƝHNznq$y`)(Se]dWWJ'<M7w.sC*ҧ!TT?ƒ<KZ:u7Q8k*ȹ'Hcm!]g6o1^?|(Q.W'(dp:AV>KkpfSJB
ҭЗyϦ#ce]ӥ+'gCrn#Q2c?|@>ΌD2K5pϹ%3.#)pԎCt8ċXKm$8P|BPs!?371Q0rMcJ?o'M+Dt;K7NtY@4ȰSż,к4'Őɚ.HK?fu1]|Gu>ÐL
3ĒYUVQȦnEJCLi,GDF+)uUcfƇIzǞHs1zQ4m!Yr(gbyKuʡcϲ5ɓ3NeOA@$1xVзzϤib(atK/EMjI[ϡ*ʚ&5K<`lKd@|7V1'n@&v%1ՙ]:e
.a:L9p_0i@6ɢ+bƆnEE(xȠoY+EGZU:9X/85g/C;dqч0`ԨWywXn&9+gHOJjpj[(ӬPӫ]ĔtMr&6.$DNP]seλzMxQò$eC]'2Ja%հun=xŎ
57a`^(]P4#~ɮtÔ*xf9=$;e'/NŴCMQǽlϬR[Jՙ!=ȑ?mJXKkюY&R`lQzhd&(V_Ǡ5^2m3CTUr4;_n4iηx<h*y$bzKsKqn['IUKVsdlE$
6UF)GKKX@I[soRs˛1yS:>!t9[uaS3Rl0nULY$mYϨL!,҉4;,shX8nY(L%OxTVă8qT!RdTͿ3vpMVDJ,bd%kMb˦Ǝ:$Д7ȞNYIĬ]pC6qa
.IWA9=:t!zXmFǠe$ɛά*cGh(,8dxqw&/ɮ|rCωȏG8]x!dʀHaȈӯCŲ1T_<`$NikOHUSI]KGy9ǗWċ)Bu[LɧJ;1ΆyAcP0vkZ*Ÿjv^EqN~N
U=SFMwH,;Cȋ@qAҁTG?vW/DUXu0HaTfJ69<.$76O7T'5.PD|&R7w,C1ՕZȂN~1Є&_XMp.~0Yc#XyuhY]ϳ5^=InIY]Foyвi0>wz|rBY
Åɥ9Y&Bjj>jJ~Բgc7P9n5OFIf@G'^9?0t;`[z&w2vjI^_TspZD0bǑ)b^zLhqǯ^figGysX#+qϒͺљ!k1j9vэxyÞ2VqYf/>=b*jƹǚ+85
]%`KTIi>Țf@f@bӤ=BK՘/V˖r>ĸpмyRb6v>+DN/;~iչ3BiÜnN%K3b,w$FF[Ok'r9Hwpg)yɟ$vwKeOn2+TT]A7wU]>ʭ0r||Յo<Ư[EVu
ҽ˞gՂ]/'!Ƨ%SvɅBNҍ~Iӓ$i`32ZɝV_etƒL%([RjvHˇd=:mɑ5yxz)aaWexD6)q/'t`wȵ/,'6'uUX=o+$Q6шVlĆϱң4=$[^=ՐYեz5.A+3
s7ur(7l6>*)=A5qj?6wc_r$;ɒQv[HnaRFBoT!DMCjҠTF)F7)UǺ,y0]5m8AF08NORZY9sBO[Ҋ&gJ6a7]E%851KȽD[pq52R.`f|,hƥ
bw2KKJ+:,9*ůtXN=YVFdH62<||ψv'jmwЗLvpUz]IA'HYBRH&=mϳiqȓ:@7qx5>JBrFP@uICk!X]GPѽMAʍ˦7;ՖPPt>:L/J'ÑIŗ>E?ſ
PPKfбY16x&^=4+5~_ť/Ƅ<vkmBj|jK[J;Qu~ŁdǱN9ЊvDpF]4[(3O,*VZt2K3zcqi`R[VGTU'DOӨZ+qĢ9T%ȝpYRq9_ӐˤM6$#5Mh*`h
i~e$kob1ÞL%c*&n+ǎa5[h9Ķ[Eni2ȚŬ*pՁx3A@/N=GpGR>h!kHΪX9nbh]/cE?c|[x]/PcH*Vf,bőB0GROvmƭq=w3.vss+8Mh(4V;ʁ
mU?/ȓųc/1*d[.tIWucfuơέˀ9xsdw$`ǟ;^o%SΎĪvm&i+kYLBNqG;MtE&[jFեT&TilŃDξM6@vf,5ԂEj<,5Wuxlhnw>IVEȓHnS/GƩ|v
EdxLwΕm7lψ9xgPi6OoHǧA4lҧ$XpMEuvgǭqUa;2dhI[1uQ$fRS!(PhJE:!2HT*AzԼ1!>eu>TƑGR|>Wr+d*yJ&40<':8^qJļ6aеA˵+
IiWZX17Zg`!hE6Hȕc[S`uP1ЬjOZIMɱ>WʌǱΚB2գXOrtaǪKyȜpb@7fF%NbO:@;%HuZ@Vc`ACшЫ4%@I~UDGgA)S8`h^XVF1D*doX!n)
`MT1.BgҧqR!b8RuaT#6:CpHsìcwtď2%joЂIխ]՗ҀC#%գ#`Ƃfv&xrrÍ/@'[Gl>9sp(8JPC4roClО+Ȋ˨%HUnÏ|V49dMBă~Ϲ2#KoV<v|
9/#fȴ>bɬ,IZhJkRӉcɮs%R;!^90XɳJK)b0%P˷Uũ>x$Ɣfec2`!+L/*m<7^ovļ5cеHJ]oYh>Ժ%2&ql4ȿ?.ZPjÐLNzg)K;X9I$H'e8YO
RştZ$>J#+wn2'@,Ζz/Ư37[>E^B?Vk=q$v(б=bsrsMA|f`:wU1wͷDbZ%1(6'roJY$?]Ky,2V(Ήh'ŋƤGv?fnU&jY#2PUĦW(3uѸ?k_O
/:`;˻QB~`#l2gaa9Ly=>IEԽ/]mğͽSMYqmGS/NQѳC`ʕle=H:İ78)irYMj&sZC=J(v`moEYb2k^@'1Heя[+[J9w˲My]c|yg5DnQw+$
nLcztcGNF~U,P_bGUaodaZ((qH|i/ԠYMh!5`NI@jŹxgjɠtelGͱFcwg8d5#ξri_f)>GCXț<Fơ'qq`AH]W$m3C`)ʑKp1VhT;ZGѼWĤo
A)qϨ5zYifYv/viJSҬzB8Kt@3LvbxSģgΨu56~dk:3|+ž=ƅ36PaYՋIO;'ƞuHE6ÿ!B5]lҦeX:&P,āną*7lɕ6АmbϣƑӄKY]ԳqJ+0Pӆ*cm
hag((A?vLd~sWĊH^RI|@4;j0S5[ӯ6P|8;n7&jN2(Mf>*rZFq`mlHY^w=bqscР%sՖf7zcwcm;=Ͻ4`]Ƹ?d2p)o4y:UϹ,LFmg+1|dvw
jX>;2xǕ~)zîiDP(FR7*6a9E6jb)cg&d=,PsätjôQ:AUS7>OC~'1Ϛ/V'E2qU@+N,*?+OI]:45ǛKzg>v5S|5)Nӟ@ұ<>`T8$.jιJ,v0
SlʑopE_AOɬMǲX6БAƨa#ya=TuG3M2#O6HH=U5^hedq(գc(`L9ME1vΧ`ocPD,G=QX~%,GȸѠz>5xUdɸwA>[SG6ĭ0)ZIu7<'Txcaǚt_f
ćyw`4Oǂ9.,3V(ʵ17g.?v7чɓ^M[>n/v/ύǅLVHW:UYC#DGȸ<<4fԩEζ037pw&)cF9(z=h`RjekJvgl2ʴ2ԚFZFn.5ԅE:P8ġ!<'1$^Ȃ@%
;h<l[)COÝ1ԭ6Qk^DHk4H6uRd!,r(Df6NЖˀ×o~nFY9r+Ͳǆ1˜F.ozBzͺgt_,yNF(x@pPXQ&PIDA<aWzW3ԻCb.Ʀώj95OZi!.d9Coѣ.A
ˡDrjXdYԲ:wu$|udнq2p+7Ѭu+v?jFRVѡƢ?IbkK)?Ԩ^|dipң>#ʌ^?d>Z0HSOÊJOGm%^Ёæ!4в7ɐ)&V$jT?ErO|(PW|WApV8rc)]S>6*
FRVk+G)%Tlob=/&Z>vcexal$NNД*ˮc0Dp2*mvʡB>y>?ЍG=Ѕl%G&;ԩ(Y,ȦiX5U)fA,с9lPL`R7nWlbdm]YĖftu%SxPU3uˢVtt)4|'
(7~Ս1Y0L6@vi%nǭa[)hRJՆ<U:HNUL_hf$VAL,3sCL5ʸ3U0s&t`@+3/d$]!V,,8m%SՄ/K&h`U;#mh4(3r,v8Ɇ*7;ExUH?D+E@g;Ûg
k[hWcibhf]OSJV<l!ABQ3.fDԕK@ȠLg;X8?H5<|'.Ң~x5~gubOP8VJM1x8r84Ϥ<h!0:<Z8,KxS#Ɛ^YB2x[Y`V~(p4s~ɀddQkqR~sX
N#y/UM~o;,(@ΰ_G3b.?b)zǻR,32ygO6]^[:!wGȿſ:w.GԸ6.ȔLy7,4<f!I?>ΧJıfЛo:yk9ð.'ts~PQ2E)q98M<˼T'ӑ!2tt@~ceϽ8u
6zH=STUAK+aԛf~rw1H2i1rɇ8rQyTw6=0zt~DHL!B4XtV:ӌnaIJod9(RaX)l'w~LKloQu)|I#'<xv˧@7q>!i~q|1_LfJ_;_tr[~~B
$2ȑp*wz,O4xc4/w0=a]Ԗ3WG.bmiҘә$_'(Y)a:YjC[Գ1`wt=w~0zl΁<SasWqAtlauNRm_KfzxL`<qӣ_IԖ5sʅo<$yƙJS+*SϬ@=WkáF
_H8:tK=Gӂʟ5~uzPZXfukÝbƈeHrra>ƛ*$qȘ^Gn>]T`@uYbȉç69;(/D%Pq~ˆ+rL@ɨ<k~|+(WQY)$O+;^/ō˔S6IklXnm'X|M|Heo?Ζ1
A7ŗe?H+[mUĹʂӽUjANS]RIRMA$iD<qoi_Z՗&'cl*4O[ɇJc>m5%iSX˿D!00#Bx@!ӹPF@)NwȀ*;U_XYĺCaj@|lqġ<Zkkz~Eoq'wve%x
mcTJiBoz^ŇXR']!Q8yylʚΑ1!ʶeeͿ9+MIrJwD4*E*57N]QfRIvQ@LOZGRynY^#.GS68XN4i)o/ʷa#_gYĩaDӯVr'`4ȼmI#=ϸjĬA|e8
8EͷL8r]%8~`&#oJэ>QzLPvn=9K˘]SNj_TAOГ%3VBlЭoϫTj^шɻʊtPɬ/cwc^d.E&RdM/./SD2%Ty4M2B)C63M'DÞ&(^h,mnS@Š+=xU
%(]avls#(hA=ÿM_X9H:qPǟM[Oe3:i3ӟʪ7?SȭxŢЦm*ɇ6,Ǧ!vgYE(WSjD7ϏȟtV?Ҧ10^oUhtE՞ju<:q@mk??S8hal]q*ŋyfQi*ȘCҩ?f
_Ltjb[e=3Z~/#1OҸCW)2LI/FRԴ%)>,/ɾ1Ap8ЅG,Nw#H8|wW#:ocAŋǊOS<Qvw7`kNuw2#d`6Bm&1Y.sTiIŃăD;0jRV]Nlbe,T8P%h
Cef/LNȆwǲ]ȂoK+E*i)gp>Xszint$[~)W<c~(`R:ZMN/e9z;cA!8wau7H6bdB%Lj%q|swh!DWz2yCQȪh2;&pIuRF?ČJӌS`=NvqMGˠ
Q^~M&MX˼XTHTUy*cu1wR(˂Yx5Kf[P&I:De<YŀʊN*pF5ʏ4ghFRL||)0˞!BV=a'.=,WI>ӹ?f.F@s~Oĵ6H7NP,ŁDCFӟ[@4n`c6_Chb6
j_:#?[ľL.+_DGUs|1sdˡp&˥PIIK,9cO5L3@7VE#L=x2TƋxDķMV_l1_>S45z|qlMIzG/:=Ez;(N2ļ%!xMdT<JȨJ;ѲŃCȥPժBI;ÜZ&3
ƗH%Nk.j7Qd_qv6xyB$>+ԐEiёwwg,y&U~ʚPDLWdByyxFIp1Gn26B^BfHуƆuQ՛pƍ`ſz/0c*)>F&@^s3ժ0@?RŘŞ=J.z*rRi[ŭ[uV~ba
uϣ59)/#$z[s+/v)jFIƃЄ.'5,xK$c˫6^w/ЕOn&[_:HPlOnrVD/BC*2BW*e.=>:vL^&r+Ml)~ò'zo&gByvf5jpɒrP<9Drb[5mm|ό&_
X^La|!HhnN2t@S)]XXX?`&ʺ]JĬѲɐe%MmnfzzѷcURC#v!q8).I^HE=+)Dhv+oqPjNY(V#QbˏQ3KCZR7$;h<owBKPǘd'ҧPx|4BPlNP
W|!Bĳ~s.E5нi;R%'ӵC(ÙLAtR4I&b_ԽJ6g4?dɫI)O/6u1vJN6+@y2K]xMQf'/iR)Ӹ1I8E˰*2r6X7TSbJr/#_'KŖ*ptaúA[6fp[?~f
Tp/+eq(sAZ@mvÃOkՆ>|Uwa)ʀ_y<.9Wd04jKPqCnų3>ԝeф6d(qH:jѶԉ)ry2a(e`I%/ULzsDƏjZӽpinDqfƑ2v:BϠYu`E$.W,4ϳœ;k>
O~)ǛxXe˵W_9^:Eõ:.s[.CGM3qo@4BE9i2Jɗ.YV,0ѿ$l^`'J,hpM/@zY?g__TJi1Z1$JʕvҍH~v(|*TUCSB!r&Nk|[.];Nl2&WȎɇpV
p3$E^n4Mal6ʐyh7%3Ǟj|wkk0awwrq<'Ϝ$48gHv/=bXl@ăsf]iϱv3d;=$DVĒ;iom$q΍)^WEc>G&7/0,?xoxlp˓X.lb_^ȭEpΟ]VNո`
ѦYF+y?oz&mi5Sf:gO|.RpB4rѦLNUIrC#6RzōD2иnRҬi&e1dZIeik|Jn10a(CtKUy8vd&Sac$԰)N9;wQfJu~]Rǧ4!ρș[*,/at|<vX
s[h~8Pu?ȐoԌ`!2_yDqr1'7tT^~s&pmy$>38˃?óGP9o,LQ,~1W@GGX,65LOdf]9Һ:!v&.d!άtCT[8SXþc7HNƲÔҡs9ņu5ζ0a#BCUAѩ
cfItI]>gѝV!΀@_v>Z(OIE/V=2|/G՟O=,y(B;˚<%kW.kr0oFT7NeTc7l!=J1O2q(Ȫrʠ9YOl,UrOLd9&++U10nI΃S@π;Ar[*.0J$Á/
k0'Tă!cŋ@zo62(6HeՈ<]/ѩ/ϕ.Ԝ9xINM]Pt7WjiAPAYKƎq%B:$Fa(`yHNK[hӃ!ŐO`%ȣ7ϳ:8#p$j$j^nm9.NEluXhL_ly1vi@ysGbt
4;9Ny_%gNɁԃiA`p+'K~8!%Vʕ:cÍ25EE=OWXnn/v6^Hvb34Ǆ4ˆfb2'`ee7r9Ŭ:CԌAĺ0`),#0uf)ZC849L3<dULyqr@)66kԱ'/˔ŧ/A
6rT:e*J]ʒFq$]`e~c`mjv(2H2O(u<4q>2Bgq@!a.(/0Zƹ[UYNKǹuG>b:DXϮoXn7m`U+ţtmFҚ&k?&S~@ÂZɓ9m8.q5*MJթdIT|!=FD
B.2P`Ľ[eSpHţ67P8qWϨŖ<lg>S'cV)U@WW<|Q0znԃC%wI(A;LWeDGK[$y)*7^<DH^ETFU'9'ʱX]ːr,Ui/&vrlL,1h|(BcBhbsU)ӊE
ӆPh|UTyd*.GFcMG`!Ջf<]3%DkETRP(u=Ox8Ǵ`|&m?5>OM/<jH/ZN;mHD3Z;ż?5s9@nya&wСygZ,Cf0ι7CvӾdb|XL2ysˑm;6NPY[T
!Ryuh[1Ju>qbhkOexW~>^%KSrP^сț'ʤ6&džwh?rINЖ/HGK5ѝ#4;bóg>qRs_)[԰R1xPys?՛&ǺYv#eSեUw?uDmӔWˆʑOsdz1,MVոshȒ
ǷfO.'P!y6<aHn1u7ZaLC@Cx?fAbΗjuǿwRvdˌi!`(rɋФwjEqkSU]NZr!V7M)r8Đ(bJfab^5<4aóhճ_[$`OwZˋ+oCV3(VC>O7H]O9)
j3y՛9kB~_exza?T#Bն~y&B$W()*g(б.^P=i)!S1jaQF]od<SAgö.aFu`Ssc2M|@nŜicg[kq%l*WNGZ>`l./ӌNR+Xf9k&yXB:_/kr
BH]0,'&g9BaEkŮ#LKcpfy[CJy8&$Yi`vWNk+<uaß#5#%<2`1#u`Ł@SU@]#hhS%jI^O,<Ɣ6+Ѝ4Yy@ob~7mv;z^kYw/epvY0.ʶTcbW
0P:m%wgм|gQF1Ҏtt[/TP|^kǩ<Q~źl9>WVNһP$!+tx2/&cd7[RIs[FkȤsæƦ4GOrbBjJCOL#,F]dWq#y~c<f~/56PŤoAѯv~]պxԇbqA
<K[XcRh>XyJc=hiUŞ@goP!eQӱz5[CK9'wlgq]DVqQ]8Q3,YЦ=kU.x8ff6=)c6]8=8ɱjlKoQI:d)]a,LF&ǵSE=l/PJQէ[#p<D)5kˀ
Áp444zU?ȏQi1yx/Ĥ[&!4<|)ØpȯŴ//љND^ß$nl7p7bYUȑF*B)zдԨRcq:6>nZǔ=XBm8,Q`tđbl^O%|Aѝ;!ըӯƥyҎ]'ώP2ZrѭGG?PSd0
.ч΃q~?w$h|#$V^0u^BnZ<ťXʝaL~?Dpoͳ&:338FP]Dc;L23I)U_bOgvԼ>_1h)B$4meE%FV78>E<_:*$|!(3]U_Tg]`<o+N~'7Ղ˹`i
!x3jp&XJ.hTφFGsfHZ˸aPKƠ28qu^ok3(ЇGJJa9;Ζ˵I]ʙK4AӞAĉRPРeѹ@usWlBFЂAqzw/HV+X?ʷԵqfW^YЄџPARȰԈrrΙ<pQNjϱuK&2
a~ZpJrÁwV*A)ucϟbvR*ρ47P/s6v(A_)f|CBCKB7h)cuѲľ1v4CΒy@g[2$vn!B9y<.'Lȸ3sрŠrx]oG;Șdeța*Fuu,!զge<lQmլOԠIw
=l7:JCf&s!92t/]wVw,85x'6]ʫ+ph7ɷikM?KYyN7CFյ|)gHS|k)>S/m:475:AXUQ($ZKD/;Gw<+YPN/8A`ŘW2kSR4+``pHx`779=
(D>~p5C)75fzqƇMKKq(уΐbpkĐƮ&t!eP>z^l'yT9$q>[cլHRШŢKÜʁW|)pGǳ8&X(ÒWH(qfo,ũr#o;:ƽe@Y^ŵT>nv)j#/|eѹt~AVv0|
ao[ABUΞ44W*í<M(m=1mV8f%XG,(?+QaΓ%7U7Hci5c:ʓ*yhK;0eeo*NY1D)1+%v/7,9P;5lǾ~kKhI(E6T=e*ѿǉX=*`ҔhFZ.λˀtn:.
,?F΄O҄2%wƭ?W+Ѡjxe[·ɔD[#c|>s_GPmHV˗B˷4yg~PKѦXBOs&eNCԈ/aJ|*EP+c~*uIjĆ<bҝ9H`~,z0LTN&aXBTEȝ=аmjбF'/++%(<
FSwf|AV;қƉdt=MtƎω84NI<:.$Yu1WD8˸;rtcjxk5Xmd^J/jHEh_oBkiVX,2a<c#syZ60ğl:22Ki$x|@6Upx5yIѯz8]gQϐ/&QNViQ
Tʻ$ɅˊLKY?l<bb0[CCcy?.E3<:m0O6aF<0WϡL$m&5!]UЌ%wOǖF$OMv9K˽RhR$zÁ:LϖU5Ux<iG|=Ѓ=@,vM^bJ43xJBȆ$%P'bMXʔ3ɪ;
Bt7,tGУ'ԐՑ[2Owpj'ji7ŰaN>%zs0:]~>Јȧz˘nêXS4N:vj%RÀAk1aA9Xc]Ȯ5Kx78U7!hrw[NZѠǖqJҟE˂FdQ'?F!(Dul4N|/Ƚ^t*iZ
VZro$ImPЕ;L6<|;f`RT|qO#)oj`ϥ5<.ϤV7*XagϹ>U'M+c;nljLӚ~lFp9iSAUњ#GOĽRҐY;%0t^UF~mGtf>0zYϞdƾ1gvaI6QopӸZ7;
)?/'eWD?`nIlG%gO>)yǃ_˗sE=c9OT7v[?ĖA?KyNeNǈ?7wbK^y.cu@3kOnWɅ5nQ5ЫsvѸ29p]zӵMK>33q7.ƅ'ӪWǜ)7W3;Qfs&%s><)
G#Vvlw9#Z'oǂ;^nrj+~PE~g~_ÀGVɘ;O[c<'?2=a.yeLВ@˖Y'Í/c.[uÌj[)%xWɡei1Ͱ.ӌeNs@b(wDS6M&/|҆Ƽ;O$B??Sя;ur7+,Fm
6J^6[tVFΚ]~(WҴDi@8En^]oW?9ph4feհ~5ATcV%;,˭&EcorΌYnhnɆ2ЯgǼĹ,Ӡ#йEWҴA^pn_>[8=(Ƽҥ:8>ў9Atɺ~MBYAWQ^+e|uά"⟩

def packedJis0212 : Packed :=
  ⟨14430, "ÌrCR&+eP|y^][M3)ed#B9z14_9CT8@l43,EM!)[L>sv3u+ҨZ/~+JN*,ŏLF2Ȕ:Ѥȏ,sȖ3˱JuuRDǁɧGIpƆb8AƘpS0H]o
M/#<p^zEҳ*T2Og.>czF2<uwUA+hɇ[y`NCPV?W:[!<gtķoqpǍԹǣ+O9&t[j8$Ɖ&#Fq)&$'T_dQw*ҧMh&i5v$'R`g@O=ԏѨfƪgȊa41tӲ
L@cFzȎREL=c[_ɋj9Zʯhz_cKոiefIOϞ)Yvϭ.6҄ì&?NBwǁS?,/kC~j)oxd,?S[ZbqѨ3w1poo2ԷS0t*0LK/ȞKĨzAWPgUb˺;=ƚ4iԧύ?b
Ć~@ylκ'Ÿ8'>LE0GÎ:`~Ca9NJΗkVŊ4=Ǳ1!4r]u&Ś%bZqDe(ԇ5x|յ?umPΧ~w!qDmFճ3X,TǔUil@2~[vԊͺ@IiȒJӹPQ2.ʛJ&4Uv1A˦Sn
xBFȟ1&A&ZW.Y9Qgӏ</ojb@jl'6=!b=zoOq;6ŏyKÁHdf>Z!GVXXs]lc>EqPvx`ϤSէ/TNfafO]Q.EbMY9ǨWH8sՖĄ)1NoճԀ!*hiħ&Sr
ɽ']GϬ%K4<Fƫ4.HBiA'T'ΊNuW_cio4΄PY%hef+ɓSObT6#?D26@K;ÁN)W)j(ԟ'*xѯoԯ~$zk7Ù:ӈTuKS(wl$YV˩>Qw!ɰI8ÓY+yЉ>ȵ9.
sZ`Dի~;PPt~Sǋt^FZa^A~^MC&[|=N(5@9ð~=*~nEB`8Һ'd$Q|dkWu%ϸI[9sakMebF:m_,/e~.՝:Z^ʥĜ+*UGG%ablԯ˚j42vP7U]yz
:XYqȡ]!ȻrӊT҅oMhlS#ӣc;#V5z]/ZJ*$afkբB|C1aԪRmT#N<C*;gNX2ΚC+frV`+1E[wZK?o˳w2lPyȢ,)ďM4jvP~J>,ѬȔ%y!8XZzj.
3RԡVҔ~4ԯZ|Ů>a1/|;Ӈ'K6*UZcoO>Yd`oqlpZ;ǘLz?Ԋ?ov5Ǯȭ|6'3gc:6#(7$%ɅvkDlf>%vB)qxfʾI4uNa/4C7_Š~,:)2!cgA1`]d
KhBgKƴǒF'$svGnmWXƈpϢxYlUbIK[;M8O)łS(T!8e(ծ.)b/KkSY$L@]>Nɴ*b9ȧ_!ȔD#W`+?M~~>/43/Qnyu+Pn*[9GաT,gT7VA7ʫa
%'fZPEK@wQqxItŃm#e$g/7*n=gGE46Ml[Au1кVR%j<QE6Q2ԘX*Í2#2Ԉh*:l9rjsB>KR7nkQ^/!uZ2#нe]=o]`OY#gEf)[SՆZQ?1d
hr~>p(Ns`#=Lsp.DèyϰKu`uj*]p_c<8a/Ͳ8G=ɼ)1.b4ƝʑX=z0KìfRSOĮrsW'B,.`ʨ1kNwё5gFDEugXY],0ZlN9[Ҳe;ΡBoqõ!Bcb'
!j7)wB^SZ+on!GӁS;S_;]`'5N6I=ТjȐ?+BçNThyӆw6LůR'VmeϥABV9c|av6þT,ɐŗ$b`H=7ZуCj^'E^a@.mB].OGFw91[VCcYT(V'
h6Mry?^YB(p&*kiv>HzX]Ksɳu^=?$J77<za*=5ff;h7$'g:PԑnY+?x[KFôYJvNqAøowr<å$ʺ')$%KTDt@_~kC@crL(@E/iF>p,ûk
+aWǲ|xYQddԍǢWPNSW#p4=XglaxE#3_rȗkl]a#>m_gQ~b:D%s(UŅKix,Hb_~Bxp&|m?ΎϞ>v[N_+DOvatWěe>Ty~F[upӠ>5GɳUeB'j
^S!Ķ=EN?c5Rk4Uӕ|RU%4PTՅ.^՜rS>wҢc!/q6qȸGC[<Ӓi:4IҿbįC@$Sħ^Tğg/YckmLhEhsT1A,|^2SR8Ì*f5YaaԿq):]ucSz×Y.ΫQ
`5LaW|Հs<eO^թX9vYɜёgOeV^<AEM2՘6o]'#?8x|VVd/tѝW!!IEOdJě5!G[aqTyQnjGPSUE3`pcoDO%p0oG2c~Mt.LzT|52<7Gvq*
fyq*._#k!:ФNo(G7jYԎ(8q~/*Ŧa`n?(x6ƮcM(%pqY8_ǞƁzyEW:nöl'S2~1bϾ6W=)űP!riԇ<Ϋ5gTBuCɿU@^.7^ST82Kcr&^Q3И6jT
zjYf]>cYLfzkȍ(~;jȉD>.*7w8?NL:7<ǭЩ^IOXş#z$>5rEMfk1!pi1S/UЦBKJ^й)s,8L@B3;B*ϐr<HϺFu(t&/lk%mrkXdUTyEҬ~Sճ
ӱjĞkǻ''Ok,oj(AJWl*iūU:3<aEC%)5)Qo|&WOSaOvC;uXzʪck3~#/l'Զ+O.Y6ȶ%F&G#6f(PBDwĿEiYd<5cE&V^&<>p|bΔ|9O_`M6
h_ECԢV8Uw:нS4MQDp9ffP#VtiD2+q=/t:cĉӒ=gX=^Nd5]5JkpDƘgDu15y?c8OɰVDI:es)3o&A6Wî~754EϞ)Ϻ)i!ofOjc[q*!Kʃ$[
[a(Qg?6fIMŤDc;l=rSRo<ϒ^~+y:ugU~$0ţv=yeOpXXpMZ^aANŏAbMưq'![/]tTROIq[>hifD|y_aH+#NȬ;WzE|DU:yha*norO$!.
ou([/VOTUtSmӢK,M17wҡGFӑxb9Mκ^D67<LhUAAEGJM@U1˗0BshU0#r=XNF'&,Ub)kZj*7+e;R6>4(ŋuD:,~%FweH.P]z>I#14gɕ]
0ˀ8k#u:ȢR]B1YCrj#0Q,2ҒoeCպSN8qĪB8trʩ*ԥGc0A3.s$`|e'^eŬFjc0tӽXQbdʕy1>qEOlho$v8I'0~If*(Ua|e*ƹ>hfRZiO:lD
О[4)N@!SI9Ľh7+MӽcO2IC70=[^%mT(jBԔ(vyCкMejBG^q~LɥR]x_RŤ$#`,K$nwcRNКk?`o9*tK06t%g+ѵvQSc^km@6NLb36CSfvA
˰Ee9yLӲŉ/8pmx5YzE^qę:sкg:Z[|r'O3H]cZUc3ƲQCIp#Ӈv(I!ͷ>Ae#ţЀ(Nfybh0Y&J>R]>#ˠ]ǸGIJԵť9XO1ʹSlb6^<˿QQ_YmjeK
XEN4ȫ]XԭE5,Q^/!V+:ѧyLȂ(zr|.ųo;zB|ȒbgeòP^Ɉ.TPOH*NUAylkF0JZkZ+eo[Y6#a;A@1(,sҁ>UR9dӨZb;nhY$_dɊCj3FbY~<2
C'ik&5DkMcg`5gc>rY&?y]5H+SWb4Yo0TgO=&1w1˪^Z#ί;ɊZMvpKvv$7/SJN14PLs:~*7բSlc˚|/~YHW9NmTh7BR*5(İo/Ǫ]Gxpn
NESZ/:%tԃpAcSW~XUi)ȥ+yuXtfgBLi/_AOn/:o]Ι|~ijH~bGȎgd[o($ҹN<r$9d5qAGk&#c|1FjE@cdd!18KB41jJJP?h!tlх1(#Æ
Qu;D9TJiLÅel3wF0Ej2+h~NĪ$yWs(9Kjwk',Bnnj(S5Ri"⟩

/-- The characters that Windows has in addition to JIS X 0208, or in the place of its own. -/
def packedWindowsJapanese : Packed :=
  ⟨22339, "~bPL/CĎ$+nZvAe~SΒO9XǕ9.]7$TP0xCA~ɖp.zv'R`m^ո`9Yy6p.,ϗj&YEfz8g4Qai0յҚR!!UF+),<(9NtO7mY6k*C
W?Eg<Q_(?=`pUXɎYQDǱ,Œ4r(0[PB__h#ȹՏ?ՙZ#jG~%*NZvX~aI):to7ǽ%gB[ҘLOw^<>8w@Ou.VI!]!bLjf=5]>^neo.ȐJЃRWmԗ%7
gBMt1[Д>ӟn2vЅ^ǋLi[#un<ML(FZ7P8uqp^VVA<<,m8lʪoGΎȐ]$0ANn>45dF*%*G~uZw!R^G97a3ocKa<<~(N1P0Od+@8K'I)N9a.
mf|6&&8t#:Ƿ24~ԢA6^5YԉKŌO4qӛ++Co(xQ=ҹXѡLq.C>b3c]K<M1JQ#nɉG(Lm(@fѷ'Zvy.ԎeՐn1Buc4CB˭ժ%.A~L8z=.N69gKA8s:
@6jǇskN]O1Whϕq8Q6/8Tԗv0tDzaLӬǅ6GB,ƮC8uxyeӞ+@jȣHU?8ʜbӭ2,;aFɦG~3XUQYjwjda6ff`!=~ӻӑjAuU.?D0AdQ@9<])m^zz
8H'364WBhC?z*v359ȵAΛ,=o2Yp[,Sgo'AxxɛoW:^B;ƚ<*J^K5ԅcA8бho)CӣwA&.mI=Xl8%6wyyw~1*AwW`q)3c#]iTDř[T~yWEL4
j7mQES;cWs8GO+U+hQI:*I6kȾJӒ+Y<2`t)LjZq3=X^Iq`TZ]f921FʮVQU4ΤoƄ=ƭMC8f]N$+Y@D%GDr1Q10U;h2~h7auwϐ|MU,:˭R
җPFd;R=;J14Яry,u#>p|wU4/3:AǥPu>@](`70`5/vn4wcK',6y:MKҶqX.u(zJ*5_g]xFBDUhN1,96EV@v#9T"⟩

end SyntaxGraph.Text
